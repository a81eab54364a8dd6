import LabEditor.Proofs.Store.Soundness

/-! What renaming and moving do to the table: each record goes to its relocated path and keeps its
place in the order, and none is lost, since no two paths meet. -/
namespace LabEditor.Store
variable {store next : Store} {record : Record} {path old new target source folder : Text}

theorem relocateEntry_key (entry : Text × Record) :
    (relocateEntry old new entry).1 = Path.relocated old new entry.1 := by
  rw [relocateEntry, Path.relocated]
  split <;> rfl

theorem relocateEntry_keeps (entry : Text × Record) :
    (relocateEntry old new entry).2.content = entry.2.content ∧
      (relocateEntry old new entry).2.isDirectory = entry.2.isDirectory := by
  rw [relocateEntry]
  split <;> exact ⟨rfl, rfl⟩

theorem keys_relocateEntry (files : Table Record) :
    (files.map (relocateEntry old new)).map Prod.fst = files.keys.map (Path.relocated old new) := by
  rw [Table.keys, List.map_map, List.map_map]
  exact List.map_congr_left fun entry _ => relocateEntry_key entry

theorem relocate_files (sound : store.Sound) (target : Path.IsPlace new)
    (clear : Path.Clear store.files.keys old new) :
    (store.relocate old new).files = store.files.map (relocateEntry old new) := by
  refine Table.ofEntries_distinct ?_
  rw [keys_relocateEntry]
  exact clear.nodup_relocated target.canonical sound.places sound.distinct

theorem relocate_keys (sound : store.Sound) (target : Path.IsPlace new)
    (clear : Path.Clear store.files.keys old new) :
    (store.relocate old new).files.keys = store.files.keys.map (Path.relocated old new) := by
  rw [relocate_files sound target clear, Table.keys, keys_relocateEntry]

theorem relocate_nodup (sound : store.Sound) (target : Path.IsPlace new)
    (clear : Path.Clear store.files.keys old new) : (store.relocate old new).files.keys.Nodup := by
  rw [relocate_keys sound target clear]
  exact clear.nodup_relocated target.canonical sound.places sound.distinct

theorem relocate_get? (sound : store.Sound) (target : Path.IsPlace new)
    (clear : Path.Clear store.files.keys old new) (found : store.files.get? path = some record) :
    (store.relocate old new).files.get? (Path.relocated old new path) =
      some (relocateEntry old new (path, record)).2 := by
  apply Table.get?_of_mem (relocate_nodup sound target clear)
  rw [relocate_files sound target clear, ← relocateEntry_key (path, record)]
  exact List.mem_map_of_mem (Table.mem_of_get? found)

/-- The current file is never the root, which the code leaves aside. -/
theorem relocate_current (sound : store.Sound) :
    (store.relocate old new).currentFile = store.currentFile.map (Path.relocated old new) := by
  refine Option.map_congr fun path here => ?_
  obtain ⟨record, found, _⟩ := isFile_iff.mp (sound.current path here)
  have some : path.isEmpty = false := by simpa using (sound.found found).place.some
  simp only [Path.relocated, some, Bool.not_false, Bool.true_and]

/-- A path that the record at `old` can go to. -/
structure Suits (store : Store) (old new : Text) : Prop where
  place : Path.IsPlace new
  allowed : ∀ record, store.files.get? old = some record → record.isDirectory = false →
    Path.Allowed new

/-- A call to rename a record or to move it in which all is in order but maybe what is at the new
path, and what comes of the call. -/
inductive Attempt (store : Store) (old : Text) : Text → Except Refusal (Store × Text) → Prop where
  | rename {record : Record} {newName : Text} (found : store.files.get? old = some record)
    (named : checkName (Text.trim newName) record.isDirectory = .ok ()) :
    Attempt store old (Path.join [Path.parent old, Text.trim newName]) (store.rename old newName)
  | move {record : Record} {folder : Text} (found : store.files.get? old = some record)
    (into : folder ≠ [] → ∃ above, store.files.get? folder = some above ∧
      above.isDirectory = true ∧ Path.isWithin folder old = false) :
    Attempt store old (Path.join [folder, Path.basename old]) (store.move old folder)

namespace Attempt
variable {result : Except Refusal (Store × Text)}

theorem found (attempt : store.Attempt old new result) :
    ∃ record, store.files.get? old = some record := by
  cases attempt with
  | rename found named => exact ⟨_, found⟩
  | move found into => exact ⟨_, found⟩

/-- Nothing but the new path is left to be looked at. -/
theorem result_eq (attempt : store.Attempt old new result) :
    result = (store.checkRelocation old new).map fun _ =>
      ((store.relocate old new).changed, new) := by
  cases attempt with
  | rename found named =>
    rw [Store.rename, get_ok.mpr found]
    simp only [Outcome.ok_bind, named]
    cases store.checkRelocation old _ <;> rfl
  | @move record folder found into =>
    rw [Store.move, get_ok.mpr found]
    by_cases root : folder = []
    · simp only [Outcome.ok_bind, root, List.isEmpty_nil, Bool.not_true, Bool.false_eq_true,
        if_false]
      cases store.checkRelocation old _ <;> rfl
    · obtain ⟨above, there, kind, outside⟩ := into root
      have some : folder.isEmpty = false := by simpa using root
      simp only [Outcome.ok_bind, some, Bool.not_false, if_true, get_ok.mpr there, kind, outside,
        Bool.not_true, Bool.false_eq_true, if_false]
      cases store.checkRelocation old _ <;> rfl

theorem suits (sound : store.Sound) (attempt : store.Attempt old new result) :
    store.Suits old new := by
  cases attempt with
  | rename found named =>
    obtain ⟨valid, plain, kind⟩ := checkName_ok.mp named
    have above : ∀ segment ∈ Path.segments (Path.parent old), Path.isDots segment = false := by
      rw [Path.segments_parent]
      exact fun segment member =>
        (sound.found found).place.plain segment ((List.dropLast_sublist _).subset member)
    refine ⟨Path.place_child above valid plain, fun other there file => ?_⟩
    cases there.symm.trans found
    rw [Path.Allowed, Path.extension_child _ valid]
    exact kind file
  | @move record folder found into =>
    have before := sound.found found
    have valid := Path.basename_valid before.place.canonical before.place.some
    have above : ∀ segment ∈ Path.segments folder, Path.isDots segment = false := by
      by_cases root : folder = []
      · simp [root, Path.segments, Text.cut]
      · obtain ⟨_, there, _⟩ := into root
        exact (sound.found there).place.plain
    refine ⟨Path.place_child above valid before.place.plain_basename, fun other there file => ?_⟩
    cases there.symm.trans found
    rw [Path.Allowed, Path.extension_child _ valid,
      Path.extension_basename before.place.canonical before.place.some]
    exact before.allowed file

end Attempt

/-- Renaming and moving answer with the new path of the record at the old one. -/
def Relocated (store : Store) (old new : Text) (next : Store) : Prop :=
  (∃ newName, store.rename old newName = .ok (next, new)) ∨
    ∃ folder, store.move old folder = .ok (next, new)

/-- A path is made of segments of paths that are there and of trimmed texts. -/
def Worded (store : Store) (texts : List Text) (path : Text) : Prop :=
  ∀ segment ∈ Path.segments path, (∃ t ∈ texts, segment ∈ Path.segments (Text.trim t)) ∨
    ∃ key ∈ store.files.keys, segment ∈ Path.segments key

theorem rename_worded (renamed : store.rename path newName = .ok (next, new)) :
    store.Worded [newName] new := by
  obtain ⟨record, found, _, rfl, _⟩ := rename_ok renamed
  have known := Table.mem_keys_of_get? found
  intro segment member
  rw [Path.segments_join, List.flatMap_cons, List.flatMap_singleton, Path.segments_parent] at member
  rcases List.mem_append.mp member with above | own
  · exact Or.inr ⟨path, known, (List.dropLast_sublist _).subset above⟩
  · exact Or.inl ⟨newName, List.mem_cons_self, own⟩

theorem move_worded (moved : store.move source folder = .ok (next, new)) : store.Worded [] new := by
  obtain ⟨record, found, into, rfl, _⟩ := move_ok moved
  have known := Table.mem_keys_of_get? found
  intro segment member
  rw [Path.segments_join, List.flatMap_cons, List.flatMap_singleton] at member
  refine Or.inr ?_
  rcases List.mem_append.mp member with above | own
  · by_cases root : folder = []
    · rw [root] at above
      contradiction
    · obtain ⟨_, there, _⟩ := into root
      exact ⟨folder, Table.mem_keys_of_get? there, above⟩
  · exact ⟨source, known, Path.segments_basename_subset source own⟩

/-- The same records are there in the same order, and what was at or under `old` is at or under
`new`. -/
structure Carries (store : Store) (old new : Text) (next : Store) : Prop where
  size : next.size = store.size
  order : next.files.keys = store.files.keys.map (Path.relocated old new)
  distinct : (store.files.keys.map (Path.relocated old new)).Nodup
  records : ∀ path record, store.files.get? path = some record →
    ∃ moved, next.files.get? (Path.relocated old new path) = some moved ∧
      moved.content = record.content ∧ moved.isDirectory = record.isDirectory
  current : next.currentFile = store.currentFile.map (Path.relocated old new)

namespace Relocated

theorem attempt (relocated : store.Relocated old new next) :
    store.Attempt old new (.ok (next, new)) := by
  rcases relocated with ⟨newName, renamed⟩ | ⟨folder, moved⟩
  · obtain ⟨record, found, named, target, _⟩ := rename_ok renamed
    rw [← renamed, target]
    exact .rename found named
  · obtain ⟨record, found, into, target, _⟩ := move_ok moved
    rw [← moved, target]
    exact .move found into

theorem suits (sound : store.Sound) (relocated : store.Relocated old new next) :
    store.Suits old new :=
  relocated.attempt.suits sound

theorem relocates (relocated : store.Relocated old new next) : store.Relocates old new next := by
  rcases relocated with ⟨newName, renamed⟩ | ⟨folder, moved⟩
  · obtain ⟨_, _, _, _, relocates⟩ := rename_ok renamed
    exact relocates
  · obtain ⟨_, _, _, _, relocates⟩ := move_ok moved
    exact relocates

/-- What is renamed or moved is a record that is there. -/
theorem found (relocated : store.Relocated old new next) :
    ∃ record, store.files.get? old = some record :=
  relocated.attempt.found

theorem carries (sound : store.Sound) (relocated : store.Relocated old new next) :
    store.Carries old new next := by
  have place := (relocated.suits sound).place
  obtain ⟨clear, rfl⟩ := relocated.relocates
  have files := relocate_files sound place clear
  have keys := relocate_keys sound place clear
  constructor
  · have length : (store.relocate old new).files.length = store.files.length := by
      rw [files, List.length_map]
    exact congrArg (store.strays.entries.length + ·) length
  · exact keys
  · exact clear.nodup_relocated place.canonical sound.places sound.distinct
  · intro path record found
    exact ⟨_, relocate_get? sound place clear found, relocateEntry_keeps (path, record)⟩
  · exact relocate_current sound

end Relocated

namespace Sound

/-- Only the record at `old` itself gets another name; what lies below keeps its name and type. -/
theorem relocateEntry (sound : store.Sound) (suits : store.Suits old new) (member : entry ∈ store.files) :
    Record.SoundAt (relocateEntry old new entry).1 (relocateEntry old new entry).2 := by
  have before := sound.records entry member
  rw [Store.relocateEntry]
  split
  · rename_i within
    obtain ⟨above, _, rest, inside⟩ :=
      (Path.isWithin_iff before.place.canonical before.place.some).mp within
    refine ⟨Path.place_rebase before.place suits.place inside, rfl, rfl, fun file => ?_, before.bare⟩
    cases rest with
    | nil =>
      have same : entry.1 = old := Path.canonical_unique before.place.canonical above (by simpa using inside)
      have found : store.files.get? old = some entry.2 :=
        Table.get?_of_mem sound.distinct (same ▸ member)
      simp only [same, Path.rebase_self suits.place.canonical]
      exact suits.allowed entry.2 found file
    | cons first rest =>
      have kept : Path.extension (Path.rebase entry.1 old new) = Path.extension entry.1 :=
        Path.extension_congr (Path.basename_rebase inside (by simp))
      simp only [Path.Allowed, kept]
      exact before.allowed file
  · exact before

theorem relocate (sound : store.Sound) (suits : store.Suits old new)
    (clear : Path.Clear store.files.keys old new) : (store.relocate old new).Sound := by
  constructor
  · exact relocate_nodup sound suits.place clear
  · intro entry member
    rw [relocate_files sound suits.place clear] at member
    obtain ⟨before, there, rfl⟩ := List.mem_map.mp member
    exact sound.relocateEntry suits there
  · intro path here
    rw [relocate_current sound] at here
    obtain ⟨before, current, rfl⟩ := Option.map_eq_some_iff.mp here
    obtain ⟨record, found, file⟩ := isFile_iff.mp (sound.current before current)
    exact isFile_iff.mpr ⟨_, relocate_get? sound suits.place clear found,
      (relocateEntry_keeps (before, record)).2.trans file⟩
  · exact sound.plain

theorem relocated (sound : store.Sound) (relocated : store.Relocated old new next) : next.Sound := by
  obtain ⟨clear, rfl⟩ := relocated.relocates
  exact (sound.relocate (relocated.suits sound) clear).changed

end Sound
end LabEditor.Store
