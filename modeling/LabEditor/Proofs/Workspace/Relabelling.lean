import LabEditor.Proofs.Workspace.Tree
import Mathlib.Data.Set.Function

/-! Renaming and moving seen from the tree: what is at or under the old path is at or under the new
one, looks as it did, and is nowhere else; what stays looks as it did too. Nothing may be at or under
the new path before, neither a record nor the memory of a folder that was open. -/
namespace LabEditor

/-- A tree becomes another one by giving the part at or under `old` the paths at or under `new`. Paths
stand for nodes, since no two nodes of a tree have the same one. -/
structure Node.Relabels (before after : Node) (old new : Text) : Prop where
  single : (before.walk.map Node.path).Nodup ∧ (after.walk.map Node.path).Nodup
  onto : Set.BijOn (fun path => Path.rebase path old new)
    {path | before.Has path ∧ Path.isWithin path old = true}
    {path | after.Has path ∧ Path.isWithin path new = true}
  children : ∀ above path, before.Has above → Path.isWithin above old = true → before.Has path →
    Path.isWithin path old = true →
    (after.IsChild (Path.rebase above old new) (Path.rebase path old new) ↔
      before.IsChild above path)
  flags : ∀ path isFolder isExpanded, before.Has path → Path.isWithin path old = true →
    (after.Shows (Path.rebase path old new) isFolder isExpanded ↔
      before.Shows path isFolder isExpanded)
  gone : ∀ path, Path.isWithin path old = true → ¬ after.Has path
  stays : ∀ path isFolder isExpanded, Path.isWithin path old = false →
    Path.isAncestor path old = false → Path.isWithin path new = false →
    (after.Shows path isFolder isExpanded ↔ before.Shows path isFolder isExpanded)

namespace Store.Relocated
variable {store next : Store} {old new path place : Text}

/-- Where just one path comes to a place, the record there is of the same kind. -/
theorem directory_iff (relocated : store.Relocated old new next) (sound : store.Sound)
    (alone : ∀ key ∈ store.files.keys, Path.relocated old new key = place ↔ key = path) :
    (∃ record, next.files.get? place = some record ∧ record.isDirectory = true) ↔
      ∃ record, store.files.get? path = some record ∧ record.isDirectory = true := by
  have carries := relocated.carries sound
  constructor
  · rintro ⟨record, found, kind⟩
    have member := Table.mem_keys_of_get? found
    rw [carries.order] at member
    obtain ⟨key, known, same⟩ := List.mem_map.mp member
    obtain ⟨before, there⟩ := Table.mem_keys.mp known
    have located := Table.get?_of_mem sound.distinct there
    obtain ⟨moved, arrived, _, kept⟩ := carries.records key before located
    rw [same] at arrived
    cases arrived.symm.trans found
    exact ⟨before, (alone key known).mp same ▸ located, kept ▸ kind⟩
  · rintro ⟨record, found, kind⟩
    have known := Table.mem_keys_of_get? found
    obtain ⟨moved, arrived, _, kept⟩ := carries.records path record found
    rw [(alone path known).mpr rfl] at arrived
    exact ⟨moved, arrived, kept.trans kind⟩

section Free
variable (relocated : store.Relocated old new next) (sound : store.Sound)
  (free : Path.Free store.files.keys new)
include relocated sound free

/-- No path is at or under both the old path and the new one. -/
theorem disjoint (left : Path.isWithin path old = true) (right : Path.isWithin path new = true) :
    False := by
  obtain ⟨record, found⟩ := relocated.found
  have member := Table.mem_keys_of_get? found
  rcases Path.isWithin_or_isWithin left right with within | within
  · exact Bool.false_ne_true ((free.apart old member).symm.trans within)
  · exact Bool.false_ne_true ((relocated.apart sound).symm.trans within)

theorem holds_rebase (moves : Path.isWithin path old = true) (at_place : Path.IsPlace path) :
    holds next.files (Path.rebase path old new) = holds store.files path := by
  rw [Bool.eq_iff_iff, holds_iff, holds_iff, (relocated.carries sound).order]
  simp only [List.mem_map, exists_exists_and_eq_and]
  exact exists_congr fun key => and_congr_right fun member =>
    free.isWithin_relocated at_place moves member

theorem isFolder_rebase (moves : Path.isWithin path old = true) (at_place : Path.IsPlace path) :
    isFolder next.files (Path.rebase path old new) = isFolder store.files path := by
  rw [Bool.eq_iff_iff, isFolder_iff, isFolder_iff, (relocated.carries sound).order]
  apply or_congr
  · simp only [List.mem_map, exists_exists_and_eq_and]
    exact exists_congr fun key => and_congr_right fun member => by
      rw [free.isAncestor_rebase at_place moves member]
  · exact relocated.directory_iff sound fun key member =>
      free.relocated_eq_rebase at_place moves member

theorem holds_old (moves : Path.isWithin path old = true) : holds next.files path = false := by
  rw [Bool.eq_false_iff, Ne, holds_iff, (relocated.carries sound).order]
  simp only [List.mem_map, exists_exists_and_eq_and]
  rintro ⟨key, member, within⟩
  have under := Path.isWithin_trans within moves
  cases before : Path.isWithin key old with
  | true =>
    rw [Path.relocated_within before] at under
    exact relocated.disjoint sound free under
      (Path.isWithin_rebase free.target.isKey before)
  | false =>
    rw [Path.relocated_outside before] at under
    exact Bool.false_ne_true (before.symm.trans under)

/-- What comes to lie under a path that stays does so in a folder that was there. -/
theorem isFolder_of_arrives (higher : Path.isAncestor path old = false)
    (outside : Path.isWithin path new = false) (moves : Path.isWithin key old = true)
    (within : Path.isWithin (Path.relocated old new key) path = true) :
    isFolder store.files path = true := by
  have lands := Path.isWithin_rebase free.target.isKey moves
  rw [Path.relocated_within moves] at within
  rcases Path.isWithin_or_isWithin within lands with under | upper
  · exact absurd (outside.symm.trans under) Bool.false_ne_true
  · rcases Path.isWithin_iff_or.mp upper with rfl | above
    · exact absurd (outside.symm.trans (Path.isWithin_refl new)) Bool.false_ne_true
    · rcases relocated.above sound above with upper | folder
      · exact absurd (higher.symm.trans upper) Bool.false_ne_true
      · exact folder

theorem isFolder_stays (stays : Path.isWithin path old = false)
    (higher : Path.isAncestor path old = false) (outside : Path.isWithin path new = false) :
    isFolder next.files path = isFolder store.files path := by
  have directory := relocated.directory_iff sound fun _ _ =>
    free.relocated_eq_self stays outside
  rw [Bool.eq_iff_iff]
  constructor
  · intro folder
    rcases isFolder_iff.mp folder with ⟨place, arrived, above⟩ | own
    · rw [(relocated.carries sound).order] at arrived
      obtain ⟨key, member, rfl⟩ := List.mem_map.mp arrived
      cases moves : Path.isWithin key old with
      | true =>
        exact relocated.isFolder_of_arrives sound free higher outside moves
          (Path.isWithin_iff_or.mpr (Or.inr above))
      | false =>
        rw [Path.relocated_outside moves] at above
        exact isFolder_iff.mpr (Or.inl ⟨key, member, above⟩)
    · exact isFolder_iff.mpr (Or.inr (directory.mp own))
  · intro folder
    rcases isFolder_iff.mp folder with ⟨key, member, above⟩ | own
    · have kept := Path.outside_of_isWithin stays higher (Path.isWithin_iff_or.mpr (Or.inr above))
      refine isFolder_iff.mpr (Or.inl ⟨key, ?_, above⟩)
      rw [(relocated.carries sound).order]
      exact List.mem_map.mpr ⟨key, member, Path.relocated_outside kept⟩
    · exact isFolder_iff.mpr (Or.inr (directory.mpr own))

theorem holds_stays (stays : Path.isWithin path old = false)
    (higher : Path.isAncestor path old = false) (outside : Path.isWithin path new = false) :
    holds next.files path = holds store.files path := by
  rw [Bool.eq_iff_iff]
  constructor
  · intro there
    obtain ⟨place, arrived, within⟩ := holds_iff.mp there
    rw [(relocated.carries sound).order] at arrived
    obtain ⟨key, member, rfl⟩ := List.mem_map.mp arrived
    cases moves : Path.isWithin key old with
    | true =>
      exact holds_of_isFolder
        (relocated.isFolder_of_arrives sound free higher outside moves within)
    | false =>
      rw [Path.relocated_outside moves] at within
      exact holds_iff.mpr ⟨key, member, within⟩
  · intro there
    obtain ⟨key, member, within⟩ := holds_iff.mp there
    refine holds_iff.mpr ⟨key, ?_, within⟩
    rw [(relocated.carries sound).order]
    exact List.mem_map.mpr
      ⟨key, member, Path.relocated_outside (Path.outside_of_isWithin stays higher within)⟩

/-- Each place at or under the new path is where one at or under the old path has come to. -/
theorem holds_new (there : holds next.files place = true) (lands : Path.isWithin place new = true) :
    ∃ path, holds store.files path = true ∧ Path.isWithin path old = true ∧
      Path.rebase path old new = place := by
  obtain ⟨arrived, member, within⟩ := holds_iff.mp there
  rw [(relocated.carries sound).order] at member
  obtain ⟨key, known, rfl⟩ := List.mem_map.mp member
  have start := sound.places key known
  cases moves : Path.isWithin key old with
  | false =>
    rw [Path.relocated_outside moves] at within
    exact absurd known (free.absent (Path.isWithin_trans within lands))
  | true =>
    obtain ⟨canonical, some, xs, inside⟩ := (Path.isWithin_iff start.canonical start.some).mp moves
    rw [Path.relocated_within moves] at within
    have moved := Path.place_rebase start free.target inside
    have goal := moved.above within
    obtain ⟨ys, below⟩ := Path.inside_of_isWithin lands
    obtain ⟨zs, behind⟩ := Path.inside_of_isWithin within
    have source := start.above moves
    have back := Path.place_rebase goal source below
    have parts : Path.segments (Path.rebase place new old) = Path.segments old ++ ys :=
      Path.segments_rebase below
    rw [Path.segments_rebase inside, below, List.append_assoc] at behind
    have rest := List.append_cancel_left behind
    refine ⟨Path.rebase place new old, ?_, ?_, Path.rebase_rebase goal.canonical below⟩
    · refine holds_iff.mpr ⟨key, known, (Path.isWithin_iff start.canonical start.some).mpr ?_⟩
      exact ⟨back.canonical, back.some, zs, by rw [inside, rest, parts, List.append_assoc]⟩
    · exact Path.isWithin_rebase source.isKey lands

end Free
end Store.Relocated

namespace Expansion
variable {expansion : Expansion} {path place old new : Text}

theorem keys_relocated (expansion : Expansion) (old new : Text) :
    (expansion.table.map fun (key, expanded) => (Path.relocated old new key, expanded)).map Prod.fst =
      expansion.table.keys.map (Path.relocated old new) := by
  rw [Table.keys, List.map_map, List.map_map]
  rfl

/-- In a table that nothing of the target is in, each key moves for itself. -/
theorem table_relocated (sound : expansion.Sound) (free : Path.Free expansion.table.keys new) :
    (expansion.rebase old new).table =
      expansion.table.map fun entry => (Path.relocated old new entry.1, entry.2) := by
  have distinct :=
    (free.clear old).nodup_relocated free.target.canonical sound.places sound.distinct
  rw [table_rebase, Table.ofEntries_distinct (keys_relocated expansion old new ▸ distinct)]

theorem isExpanded_rebase (sound : expansion.Sound) (free : Path.Free expansion.table.keys new)
    (alone : ∀ key ∈ expansion.table.keys, Path.relocated old new key = place ↔ key = path) :
    (expansion.rebase old new).isExpanded place = expansion.isExpanded path := by
  have keys := keys_relocated expansion old new
  have distinct :=
    (free.clear old).nodup_relocated free.target.canonical sound.places sound.distinct
  have found : (expansion.rebase old new).table.get? place = expansion.table.get? path := by
    rw [table_relocated sound free]
    apply Option.ext
    intro expanded
    rw [Table.get?_iff (by rw [Table.keys, keys]; exact distinct), Table.get?_iff sound.distinct]
    constructor
    · intro member
      obtain ⟨⟨key, value⟩, known, same⟩ := List.mem_map.mp member
      obtain ⟨rfl, rfl⟩ := Prod.mk.inj same
      exact (alone key (Table.mem_keys.mpr ⟨value, known⟩)).mp rfl ▸ known
    · intro member
      have known := Table.mem_keys.mpr ⟨expanded, member⟩
      exact List.mem_map.mpr ⟨_, member, Prod.ext ((alone path known).mpr rfl) rfl⟩
  rw [isExpanded, isExpanded, found]

end Expansion

namespace Workspace
variable {ws next : Workspace} {old new : Text}

theorem rename_parts (renamed : ws.rename old newName = .ok (next, new)) :
    ws.store.rename old newName = .ok (next.store, new) ∧
      next.expansion = ws.expansion.rebase old new := by
  obtain ⟨⟨store, target⟩, changed, same⟩ := Outcome.bind_ok.mp renamed
  cases same
  rw [save_store, save_expansion]
  exact ⟨changed, rfl⟩

/-- Renaming and moving answer with the new path of what was at the old one. -/
def Relocated (ws : Workspace) (old new : Text) (next : Workspace) : Prop :=
  (∃ newName, ws.rename old newName = .ok (next, new)) ∨
    ∃ folder, ws.move old folder = .ok (next, new)

theorem Relocated.parts (relocated : ws.Relocated old new next) :
    ws.store.Relocated old new next.store ∧ next.expansion = ws.expansion.rebase old new := by
  rcases relocated with ⟨newName, renamed⟩ | ⟨folder, moved⟩
  · exact (rename_parts renamed).imp_left fun changed => Or.inl ⟨newName, changed⟩
  · obtain ⟨⟨store, target⟩, changed, same⟩ := Outcome.bind_ok.mp moved
    cases same
    rw [save_store, save_expansion]
    exact ⟨Or.inr ⟨folder, changed⟩, rfl⟩

/-- The last name of a place in a folder is not part of the folder. -/
theorem child_rebase {above path : Text} (upper : Path.IsPlace above) (lower : Path.IsPlace path)
    (target : Path.IsPlace new) (inside : Path.isWithin above old = true)
    (under : Path.isWithin path old = true) :
    Path.rebase above old new = Path.parent (Path.rebase path old new) ↔
      above = Path.parent path := by
  obtain ⟨xs, left⟩ := Path.inside_of_isWithin inside
  obtain ⟨ys, right⟩ := Path.inside_of_isWithin under
  have same : ∀ {p q : Text}, Path.Canonical p →
      (p = Path.parent q ↔ Path.segments p = (Path.segments q).dropLast) := by
    intro p q canonical
    constructor
    · rintro rfl
      exact Path.segments_parent q
    · intro parts
      exact Path.canonical_unique canonical (Path.canonical_parent q)
        (parts.trans (Path.segments_parent q).symm)
  have root := lower.above under
  rw [same (Path.canonical_rebase left), same upper.canonical, Path.segments_rebase left,
    Path.segments_rebase right, left, right]
  rcases List.eq_nil_or_concat ys with rfl | ⟨ys, last, rfl⟩
  · -- What moves itself is in no folder that moves along.
    have short : ∀ {parts : List Text}, parts ≠ [] → parts ++ xs ≠ (parts ++ []).dropLast := by
      intro parts some equal
      have lengths := congrArg List.length equal
      have more := List.length_pos_of_ne_nil some
      rw [List.length_append, List.append_nil, List.length_dropLast] at lengths
      omega
    exact iff_of_false (short target.segments_ne_nil) (short root.segments_ne_nil)
  · rw [List.concat_eq_append, ← List.append_assoc, ← List.append_assoc, List.dropLast_concat,
      List.dropLast_concat, List.append_cancel_left_eq, List.append_cancel_left_eq]

namespace Relocated
section
variable {path : Text} (relocated : ws.Relocated old new next) (sound : ws.store.Sound)
include relocated sound

theorem target : Path.IsPlace new :=
  (relocated.parts.1.suits sound).place

theorem source : Path.IsPlace old := by
  obtain ⟨record, found⟩ := relocated.parts.1.found
  exact (sound.found found).place

theorem holds_of_has (has : ws.tree.Has path) (within : Path.isWithin path old = true) :
    Store.holds ws.store.files path = true :=
  (has_iff sound (Path.ne_nil_of_isWithin (relocated.source sound).some within)).mp has

theorem place_of_has (has : ws.tree.Has path) (within : Path.isWithin path old = true) :
    Path.IsPlace path :=
  Store.place_of_holds sound (relocated.holds_of_has sound has within)

/-- What moves comes to lie at or under the new path. -/
theorem lands (within : Path.isWithin path old = true) :
    Path.isWithin (Path.rebase path old new) new = true :=
  Path.isWithin_rebase (relocated.target sound).isKey within

section
variable (unmet : Path.Free ws.store.files.keys new)
include unmet

theorem bijOn : Set.BijOn (fun path => Path.rebase path old new)
    {path | ws.tree.Has path ∧ Path.isWithin path old = true}
    {path | next.tree.Has path ∧ Path.isWithin path new = true} := by
  have stored := relocated.parts.1
  have after := sound.relocated stored
  refine ⟨?_, ?_, ?_⟩
  · rintro path ⟨has, within⟩
    have lands := relocated.lands sound within
    have some := Path.ne_nil_of_isWithin (relocated.target sound).some lands
    refine ⟨(has_iff after some).mpr ?_, lands⟩
    rw [stored.holds_rebase sound unmet within (relocated.place_of_has sound has within)]
    exact relocated.holds_of_has sound has within
  · rintro p ⟨hasP, withinP⟩ q ⟨hasQ, withinQ⟩ same
    have placeP := relocated.place_of_has sound hasP withinP
    have placeQ := relocated.place_of_has sound hasQ withinQ
    obtain ⟨xs, left⟩ := Path.inside_of_isWithin withinP
    obtain ⟨ys, right⟩ := Path.inside_of_isWithin withinQ
    exact Path.rebase_injective placeP.canonical placeQ.canonical left right same
  · rintro place ⟨has, within⟩
    have some := Path.ne_nil_of_isWithin (relocated.target sound).some within
    have there := (has_iff after some).mp has
    obtain ⟨path, holds, moves, same⟩ := stored.holds_new sound unmet there within
    have moved := Path.ne_nil_of_isWithin (relocated.source sound).some moves
    exact ⟨path, ⟨(has_iff sound moved).mpr holds, moves⟩, same⟩

theorem isChild_rebase {above : Text} (hasAbove : ws.tree.Has above)
    (inside : Path.isWithin above old = true) (has : ws.tree.Has path)
    (under : Path.isWithin path old = true) :
    next.tree.IsChild (Path.rebase above old new) (Path.rebase path old new) ↔
      ws.tree.IsChild above path := by
  have stored := relocated.parts.1
  have place := relocated.place_of_has sound has under
  rw [isChild_iff sound, isChild_iff (sound.relocated stored),
    stored.holds_rebase sound unmet under place]
  exact and_congr_left fun _ => child_rebase (relocated.place_of_has sound hasAbove inside) place
    (relocated.target sound) inside under

theorem not_has_old (within : Path.isWithin path old = true) : ¬ next.tree.Has path := by
  intro has
  have stored := relocated.parts.1
  have some := Path.ne_nil_of_isWithin (relocated.source sound).some within
  have there := (has_iff (sound.relocated stored) some).mp has
  exact Bool.false_ne_true ((stored.holds_old sound unmet within).symm.trans there)

section
variable {isFolder isExpanded : Bool} (folders : ws.expansion.Sound)
  (unseen : Path.Free ws.expansion.table.keys new)
include folders unseen

theorem shows_rebase (has : ws.tree.Has path) (within : Path.isWithin path old = true) :
    next.tree.Shows (Path.rebase path old new) isFolder isExpanded ↔
      ws.tree.Shows path isFolder isExpanded := by
  obtain ⟨stored, expansion⟩ := relocated.parts
  have place := relocated.place_of_has sound has within
  have lands := relocated.lands sound within
  have open_same :
      next.expansion.isExpanded (Path.rebase path old new) = ws.expansion.isExpanded path := by
    rw [expansion]
    exact Expansion.isExpanded_rebase folders unseen fun key member =>
      unseen.relocated_eq_rebase place within member
  rw [shows_iff sound (Path.ne_nil_of_isWithin (relocated.source sound).some within),
    shows_iff (sound.relocated stored)
      (Path.ne_nil_of_isWithin (relocated.target sound).some lands),
    stored.holds_rebase sound unmet within place, stored.isFolder_rebase sound unmet within place,
    open_same]

theorem shows_stays (stays : Path.isWithin path old = false)
    (higher : Path.isAncestor path old = false) (outside : Path.isWithin path new = false) :
    next.tree.Shows path isFolder isExpanded ↔ ws.tree.Shows path isFolder isExpanded := by
  obtain ⟨stored, expansion⟩ := relocated.parts
  by_cases root : path = []
  · rw [root, shows_root, shows_root]
  · have open_same : next.expansion.isExpanded path = ws.expansion.isExpanded path := by
      rw [expansion]
      exact Expansion.isExpanded_rebase folders unseen fun _ _ =>
        unseen.relocated_eq_self stays outside
    rw [shows_iff sound root, shows_iff (sound.relocated stored) root,
      stored.holds_stays sound unmet stays higher outside,
      stored.isFolder_stays sound unmet stays higher outside, open_same]

end
end
end

theorem relabels (relocated : ws.Relocated old new next) (sound : ws.store.Sound)
    (folders : ws.expansion.Sound)
    (free : ∀ key ∈ ws.store.files.keys, Path.isWithin key new = false)
    (closed : ∀ key ∈ ws.expansion.table.keys, Path.isWithin key new = false) :
    ws.tree.Relabels next.tree old new := by
  have target := relocated.target sound
  have unmet : Path.Free ws.store.files.keys new := ⟨target, sound.places, free⟩
  have unseen : Path.Free ws.expansion.table.keys new := ⟨target, folders.places, closed⟩
  constructor
  · exact ⟨nodup_walk ws, nodup_walk next⟩
  · exact relocated.bijOn sound unmet
  · intro above path hasAbove inside has under
    exact relocated.isChild_rebase sound unmet hasAbove inside has under
  · intro path isFolder isExpanded has within
    exact relocated.shows_rebase sound unmet folders unseen has within
  · intro path within
    exact relocated.not_has_old sound unmet within
  · intro path isFolder isExpanded stays higher outside
    exact relocated.shows_stays sound unmet folders unseen stays higher outside

end Relocated

/-- Wherever a run stands, renaming and moving to a path that is new to records and open folders
relabel the tree that is shown. -/
theorem relocation_relabels (disk : Disk) (steps : List Step)
    (relocated : ((empty disk).after steps).Relocated old new next)
    (free : ∀ key ∈ ((empty disk).after steps).store.files.keys,
      Path.isWithin key new = false)
    (closed : ∀ key ∈ ((empty disk).after steps).expansion.table.keys,
      Path.isWithin key new = false) :
    ∃ shown shownNext, ((empty disk).after steps).listedTree = .ok shown ∧
      next.listedTree = .ok shownNext ∧ shown.Relabels shownNext old new := by
  have sound := (Sound.empty disk).after steps
  have folders := Expansion.Sound.after disk steps
  have stored := sound.store.relocated relocated.parts.1
  exact ⟨_, _, listedTree_sound sound.store, listedTree_sound stored,
    relocated.relabels sound.store folders free closed⟩

/-- An open folder is moved; one whose name begins with its name stays. -/
theorem relocation_relabels_docs :
    let steps : List Step := [.call (.apply (.createFolder [] "docs")),
      .call (.apply (.createFile "docs/sub" "a.md" (.str "text"))),
      .call (.apply (.createFolder [] "old")),
      .call (.apply (.createFile "docs2" "b.md" (.str "more"))), .call (.toggleFolder "docs/sub")]
    ∃ next, ((empty .absent).after steps).Relocated "docs" "old/docs" next ∧
      (∀ key ∈ ((empty .absent).after steps).store.files.keys,
        Path.isWithin key "old/docs" = false) ∧
      (∀ key ∈ ((empty .absent).after steps).expansion.table.keys,
        Path.isWithin key "old/docs" = false) ∧
      ∃ shown shownNext, ((empty .absent).after steps).listedTree = .ok shown ∧
        next.listedTree = .ok shownNext ∧ shown.Relabels shownNext "docs" "old/docs" := by
  intro steps
  have moved : ∃ next, ((empty .absent).after steps).move "docs" "old" = .ok (next, "old/docs") :=
    ⟨_, rfl⟩
  have free : ∀ key ∈ ((empty .absent).after steps).store.files.keys,
      Path.isWithin key "old/docs" = false := by
    decide
  have closed : ∀ key ∈ ((empty .absent).after steps).expansion.table.keys,
      Path.isWithin key "old/docs" = false := by
    decide
  obtain ⟨next, moved⟩ := moved
  have relocated : ((empty .absent).after steps).Relocated "docs" "old/docs" next :=
    Or.inr ⟨"old", moved⟩
  exact ⟨next, relocated, free, closed, relocation_relabels .absent steps relocated free closed⟩

end Workspace
end LabEditor
