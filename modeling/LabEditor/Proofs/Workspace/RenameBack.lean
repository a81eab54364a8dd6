import LabEditor.Proofs.Workspace.Relabelling

/-! Renaming back. A record that was renamed, to a path that was new to records and open folders, can
get its old name back, and then all is as it was. A new name is trimmed, so that a name with white
space around it cannot be given back. -/
namespace LabEditor

namespace Record
variable {record : Record} {place : Text}

/-- The record as it stands at another path. -/
def atPath (record : Record) (path : Text) : Record :=
  { record with path, name := .str (Path.basename path) }

theorem SoundAt.atPath (sound : SoundAt place record) : record.atPath place = record := by
  rw [Record.atPath, ← sound.name, ← sound.own]

/-- What is at a path may have the name that it has. -/
theorem SoundAt.checkName (sound : SoundAt place record) :
    checkName (Path.basename place) record.isDirectory = .ok () := by
  refine checkName_ok.mpr ⟨Path.basename_valid sound.place.canonical sound.place.some,
    sound.place.plain_basename, fun file => ?_⟩
  rw [Path.extension_basename sound.place.canonical sound.place.some]
  exact sound.allowed file

end Record

namespace Store
variable {store next : Store} {old new newName : Text} {entry : Text × Record}

theorem relocateEntry_eq (sound : Record.SoundAt entry.1 entry.2) : relocateEntry old new entry =
    (Path.relocated old new entry.1, entry.2.atPath (Path.relocated old new entry.1)) := by
  cases within : Path.isWithin entry.1 old with
  | true =>
    rw [relocateEntry, if_pos within, Path.relocated_within within]
    rfl
  | false =>
    rw [relocateEntry, within, Path.relocated_outside within, sound.atPath]
    rfl

/-- A record gets its path back, and its name with it. -/
theorem relocateEntry_relocateEntry (sound : store.Sound) (suits : store.Suits old new)
    (free : Path.Free store.files.keys new) (member : entry ∈ store.files) :
    relocateEntry new old (relocateEntry old new entry) = entry := by
  have before := sound.records entry member
  have known : entry.1 ∈ store.files.keys := List.mem_map_of_mem member
  rw [relocateEntry_eq (sound.relocateEntry suits member), relocateEntry_eq before,
    free.relocated_relocated known]
  exact Prod.ext rfl before.atPath

namespace Relocated
variable (relocated : store.Relocated old new next) (sound : store.Sound)
  (free : Path.Free store.files.keys new)
include relocated sound free

theorem back_free : Path.Free next.files.keys old := by
  obtain ⟨record, found⟩ := relocated.found
  rw [(relocated.carries sound).order]
  exact free.back (sound.found found).place (relocated.apart sound)
    (free.apart old (Table.mem_keys_of_get? found))

theorem back_files : (next.relocate new old).files = store.files := by
  have suits := relocated.suits sound
  have files : next.files = store.files.map (relocateEntry old new) := by
    obtain ⟨clear, rfl⟩ := relocated.relocates
    exact relocate_files sound suits.place clear
  have entries : next.files.map (relocateEntry new old) = store.files := by
    rw [files, List.map_map]
    exact (List.map_congr_left fun entry member =>
      relocateEntry_relocateEntry sound suits free member).trans (List.map_id _)
  exact (congrArg Table.ofEntries entries).trans (Table.ofEntries_distinct sound.distinct)

theorem back_current : (next.relocate new old).current = store.current := by
  have file : (next.relocate new old).currentFile = store.currentFile := by
    rw [relocate_current (sound.relocated relocated), (relocated.carries sound).current]
    cases here : store.currentFile with
    | none => rfl
    | some path =>
      exact congrArg some (free.relocated_relocated (isFile_member (sound.current path here)))
  obtain ⟨_, rfl⟩ := relocated.relocates
  rw [current, file]
  rfl

end Relocated

/-- The old name is free again, and giving it leads to the old path. -/
theorem rename_back (sound : store.Sound) (renamed : store.rename old newName = .ok (next, new))
    (free : Path.Free store.files.keys new)
    (trimmed : Text.trim (Path.basename old) = Path.basename old) :
    next.rename new (Path.basename old) = .ok ((next.relocate new old).changed, old) := by
  have relocated : store.Relocated old new next := Or.inl ⟨newName, renamed⟩
  obtain ⟨record, found, named, target, _⟩ := rename_ok renamed
  have before := sound.found found
  obtain ⟨moved, arrived, _, kind⟩ := (relocated.carries sound).records old record found
  rw [Path.relocated_within (Path.isWithin_refl old),
    Path.rebase_self free.target.canonical] at arrived
  have name : checkName (Text.trim (Path.basename old)) moved.isDirectory = .ok () := by
    rw [trimmed, kind]
    exact before.checkName
  have place : Path.join [Path.parent new, Text.trim (Path.basename old)] = old := by
    rw [trimmed, target, Path.parent_child (Path.canonical_parent old) (checkName_ok.mp named).1,
      Path.join_parent_basename before.place.canonical before.place.some]
  exact rename_clear arrived name place ((relocated.back_free sound free).clear new)

end Store

namespace Expansion
variable {expansion : Expansion} {old new : Text}

theorem rebase_rebase (sound : expansion.Sound) (free : Path.Free expansion.table.keys new) :
    ((expansion.rebase old new).rebase new old).table = expansion.table := by
  rw [table_rebase, table_relocated sound free, List.map_map]
  refine Eq.trans (congrArg Table.ofEntries ?_) (Table.ofEntries_distinct sound.distinct)
  refine (List.map_congr_left fun entry member => ?_).trans (List.map_id _)
  exact Prod.ext (free.relocated_relocated (List.mem_map_of_mem member)) rfl

end Expansion

namespace Workspace
variable {ws next : Workspace} {path target newName : Text}

theorem rename_of_store {store : Store} (renamed : ws.store.rename path newName = .ok (store, target)) :
    ws.rename path newName =
      .ok ({ ws with store, expansion := ws.expansion.rebase path target }.save, target) := by
  rw [rename, renamed]
  rfl

theorem rename_undone (sound : ws.store.Sound) (folders : ws.expansion.Sound)
    (renamed : ws.rename path newName = .ok (next, target))
    (trimmed : Text.trim (Path.basename path) = Path.basename path)
    (unmet : Path.Free ws.store.files.keys target)
    (unseen : Path.Free ws.expansion.table.keys target) :
    ∃ back, next.rename target (Path.basename path) = .ok (back, path) ∧
      back.store.files = ws.store.files ∧ back.store.current = ws.store.current ∧
      back.expansion.table = ws.expansion.table := by
  obtain ⟨changed, expansion⟩ := rename_parts renamed
  have relocated : ws.store.Relocated path target next.store := Or.inl ⟨newName, changed⟩
  refine ⟨_, rename_of_store (Store.rename_back sound changed unmet trimmed), ?_, ?_, ?_⟩
  · rw [save_store]
    exact relocated.back_files sound unmet
  · rw [save_store]
    exact relocated.back_current sound unmet
  · rw [save_expansion, expansion]
    exact Expansion.rebase_rebase folders unseen

/-- Wherever a run stands, a record that is renamed to a path that is new to records and open folders
can be renamed back, which leaves the records in their order, the current file and the table of open
folders as they were. -/
theorem rename_back_restores (disk : Disk) (steps : List Step)
    (renamed : ((empty disk).after steps).rename path newName = .ok (next, target))
    (trimmed : Text.trim (Path.basename path) = Path.basename path)
    (free : ∀ key ∈ ((empty disk).after steps).store.files.keys,
      Path.isWithin key target = false)
    (closed : ∀ key ∈ ((empty disk).after steps).expansion.table.keys,
      Path.isWithin key target = false) :
    ∃ back, next.rename target (Path.basename path) = .ok (back, path) ∧
      back.store.files = ((empty disk).after steps).store.files ∧
      back.store.current = ((empty disk).after steps).store.current ∧
      back.expansion.table = ((empty disk).after steps).expansion.table := by
  have sound := ((Sound.empty disk).after steps).store
  have folders := Expansion.Sound.after disk steps
  have relocated : ((empty disk).after steps).Relocated path target next :=
    Or.inl ⟨newName, renamed⟩
  have place := relocated.target sound
  exact rename_undone sound folders renamed trimmed ⟨place, sound.places, free⟩
    ⟨place, folders.places, closed⟩

/-- A folder that is open, with a file in it that is open in the editor. -/
theorem rename_back_restores_docs :
    let steps : List Step := [.call (.apply (.createFolder [] "docs")),
      .call (.apply (.createFile "docs" "a.md" (.str "text"))),
      .call (.apply (.createFile [] "docs.md" (.str "more"))), .call (.toggleFolder "docs"),
      .call (.apply (.openFile "docs/a.md"))]
    let ws := (empty .absent).after steps
    ∃ next, ws.rename "docs" " notes " = .ok (next, "notes") ∧
      Text.trim (Path.basename "docs") = Path.basename "docs" ∧
      (∀ key ∈ ws.store.files.keys, Path.isWithin key "notes" = false) ∧
      (∀ key ∈ ws.expansion.table.keys, Path.isWithin key "notes" = false) ∧
      ∃ back, next.rename "notes" (Path.basename "docs") = .ok (back, "docs") ∧
        back.store.files = ws.store.files ∧ back.store.current = ws.store.current ∧
        back.expansion.table = ws.expansion.table := by
  intro steps ws
  have renamed : ∃ next, ws.rename "docs" " notes " = .ok (next, "notes") := ⟨_, rfl⟩
  have trimmed : Text.trim (Path.basename "docs") = Path.basename "docs" := by decide
  have free : ∀ key ∈ ws.store.files.keys, Path.isWithin key "notes" = false := by decide
  have closed : ∀ key ∈ ws.expansion.table.keys, Path.isWithin key "notes" = false := by decide
  obtain ⟨next, renamed⟩ := renamed
  exact ⟨next, renamed, trimmed, free, closed,
    rename_back_restores .absent steps renamed trimmed free closed⟩

end Workspace
end LabEditor
