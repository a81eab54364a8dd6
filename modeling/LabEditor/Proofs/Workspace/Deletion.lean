import LabEditor.Proofs.Workspace.Tree

/-! What deleting takes away: the record of a path and all that lies under it in the tree, from the
records, from the table of open folders and from what is shown, and nothing else. The calls compare
paths as texts; the tree is made of segments. -/
namespace LabEditor

namespace Path
variable {root path : Text}

/-- The segments of a path begin with those of another. -/
def Under (root path : Text) : Prop :=
  segments root <+: segments path

instance (root path : Text) : Decidable (Under root path) :=
  inferInstanceAs (Decidable (_ <+: _))

/-- Between the paths of records, to compare the texts is to compare the segments. -/
theorem isWithin_iff_under (place : IsPlace path) (above : IsPlace root) :
    isWithin path root = true ↔ Under root path := by
  rw [isWithin_iff place.canonical place.some]
  constructor
  · rintro ⟨_, _, rest, inside⟩
    exact ⟨rest, inside.symm⟩
  · rintro ⟨rest, inside⟩
    exact ⟨above.canonical, above.some, rest, inside.symm⟩

theorem isWithin_eq (place : IsPlace path) (above : IsPlace root) :
    isWithin path root = decide (Under root path) := by
  rw [Bool.eq_iff_iff, decide_eq_true_iff]
  exact isWithin_iff_under place above

theorem not_under_root (above : IsPlace root) : ¬ Under root [] := by
  intro under
  have none : segments root = [] := List.prefix_nil.mp under
  exact above.some ((segments_eq_nil above.canonical).mp none)

end Path

namespace Table
variable {α : Type} {table : Table α} {root : Text}

/-- What lies at or under a path goes, and the rest keeps its order. -/
theorem keep_outside (places : ∀ key ∈ table.keys, Path.IsPlace key) (above : Path.IsPlace root) :
    (table.keep fun key => !Path.isWithin key root) =
      table.filter fun entry => !decide (Path.Under root entry.1) := by
  apply List.filter_congr
  intro entry member
  exact congrArg not (Path.isWithin_eq (places entry.1 (List.mem_map_of_mem member)) above)

end Table

namespace Store
variable {store next : Store} {path : Text} {removed : List Text}

theorem delete_succeeds (found : store.files.get? path = some record) :
    ∃ next removed, store.delete path = .ok (next, removed) := by
  rw [delete, get_ok.mpr found, Outcome.ok_bind]
  exact ⟨_, _, rfl⟩

/-- What is removed is listed once, in order, and it is all that lies at or under the path. -/
theorem delete_removed (sound : store.Sound) (deleted : store.delete path = .ok (next, removed)) :
    removed.Pairwise (fun a b => Text.le a b = true) ∧ removed.Nodup ∧
      ∀ key, key ∈ removed ↔ key ∈ store.files.keys ∧ Path.Under path key := by
  obtain ⟨record, found, rfl, _⟩ := delete_ok deleted
  have above := (sound.found found).place
  refine ⟨Order.pairwise_sortBy Text.le_total Text.le_trans _, ?_, ?_⟩
  · rw [(Order.perm_sortBy _ _).nodup_iff]
    exact sound.distinct.filter _
  · intro key
    rw [Order.mem_sortBy, List.mem_filter]
    exact and_congr_right fun member => Path.isWithin_iff_under (sound.places key member) above

theorem delete_files (sound : store.Sound) (deleted : store.delete path = .ok (next, removed)) :
    next.files = store.files.filter fun entry => !decide (Path.Under path entry.1) := by
  obtain ⟨record, found, _, rfl⟩ := delete_ok deleted
  exact Table.keep_outside sound.places (sound.found found).place

/-- Afterwards nothing lies at or under the path. -/
theorem delete_leaves (sound : store.Sound) (deleted : store.delete path = .ok (next, removed)) :
    ∀ key ∈ next.files.keys, ¬ Path.Under path key := by
  intro key member
  rw [delete_files sound deleted] at member
  obtain ⟨entry, there, rfl⟩ := List.mem_map.mp member
  simpa using (List.mem_filter.mp there).2

theorem current_some (here : store.currentFile = some file) : store.current = .str file := by
  rw [current, here]

theorem current_none (plain : store.strays = .none) (none : store.currentFile = none) :
    store.current = .null := by
  rw [current, none, plain]
  rfl

/-- The current file stays what it is, unless it is removed. -/
theorem delete_current (sound : store.Sound) (deleted : store.delete path = .ok (next, removed)) :
    (∀ file ∈ removed, store.current = .str file → next.current = .null) ∧
      ((∀ file ∈ removed, store.current ≠ .str file) → next.current = store.current) := by
  have after := (sound.delete deleted).plain
  obtain ⟨_, _, _, result⟩ := delete_ok deleted
  have left : next.currentFile = store.currentFile.filter fun file => !removed.contains file :=
    congrArg currentFile result
  cases open? : store.currentFile with
  | none =>
    rw [open?] at left
    rw [current_none sound.plain open?, current_none after left]
    exact ⟨fun _ _ _ => rfl, fun _ => rfl⟩
  | some file =>
    rw [open?, Option.filter_some] at left
    rw [current_some open?]
    by_cases gone : file ∈ removed
    · rw [if_neg (by simpa using gone)] at left
      exact ⟨fun _ _ _ => current_none after left, fun stays => absurd rfl (stays file gone)⟩
    · rw [if_pos (by simpa using gone)] at left
      refine ⟨?_, fun _ => current_some left⟩
      rintro _ member ⟨⟩
      exact absurd member gone

/-- What lies under a deleted path is in no folder of what is left. -/
theorem not_holds_deleted (sound : store.Sound) (deleted : store.delete path = .ok (next, removed))
    (under : Path.Under path other) : holds next.files other = false := by
  obtain ⟨record, found, _, _⟩ := delete_ok deleted
  rw [Bool.eq_false_iff]
  intro there
  obtain ⟨key, member, within⟩ := holds_iff.mp there
  have place := (sound.delete deleted).places key member
  have inside := (Path.isWithin_iff_under place (place.above within)).mp within
  exact delete_leaves sound deleted key member (under.trans inside)

end Store

namespace Workspace

/-- Wherever a run stands, deleting a record succeeds and takes away exactly what lies at or under
it: from the records, which keep their contents and their order, from the current file, from the
table of open folders, and from the tree. -/
theorem delete_subtree (disk : Disk) (steps : List Step) (path : Text)
    (record : Record)
    (found : ((empty disk).after steps).store.files.get? path = some record) :
    let ws := (empty disk).after steps
    ∃ next removed, ws.delete path = .ok (next, removed) ∧
      removed.Pairwise (fun a b => Text.le a b = true) ∧ removed.Nodup ∧
      (∀ key, key ∈ removed ↔ key ∈ ws.store.files.keys ∧ Path.Under path key) ∧
      next.store.files = ws.store.files.filter (fun entry => !decide (Path.Under path entry.1)) ∧
      (∀ file ∈ removed, ws.store.current = .str file → next.store.current = .null) ∧
      ((∀ file ∈ removed, ws.store.current ≠ .str file) →
        next.store.current = ws.store.current) ∧
      next.expansion.table =
        ws.expansion.table.filter (fun entry => !decide (Path.Under path entry.1)) ∧
      (∀ key ∈ next.store.keys, ∃ stays, key = .str stays ∧ ¬ Path.Under path stays) ∧
      ∃ shown, next.listedTree = .ok shown ∧
        ∀ node ∈ shown.walk, ¬ Path.Under path node.path := by
  intro ws
  have sound : ws.store.Sound := ((Sound.empty disk).after steps).store
  have folders : ws.expansion.Sound := Expansion.Sound.after disk steps
  have above := (sound.found found).place
  obtain ⟨store, removed, deleted⟩ := Store.delete_succeeds found
  have after := sound.delete deleted
  obtain ⟨sorted, distinct, exact⟩ := Store.delete_removed sound deleted
  let next := { ws with store, expansion := ws.expansion.forget path }.save
  have here : next.store = store := save_store _
  have done : ws.delete path = .ok (next, removed) := by
    rw [delete, deleted]
    rfl
  obtain ⟨goes, stays⟩ := Store.delete_current sound deleted
  rw [← here] at goes stays
  refine ⟨next, removed, done, sorted, distinct, exact, ?_, goes, stays, ?_, ?_, next.tree, ?_, ?_⟩
  · rw [here]
    exact Store.delete_files sound deleted
  · rw [save_expansion]
    exact Table.keep_outside folders.places above
  · intro key member
    rw [here, Store.keys, after.plain] at member
    obtain ⟨stays, listed, rfl⟩ := List.mem_map.mp member
    exact ⟨stays, rfl, Store.delete_leaves sound deleted stays (Order.mem_sortBy.mp listed)⟩
  · exact listedTree_sound (here.symm ▸ after)
  · intro node member under
    by_cases root : node.path = []
    · exact Path.not_under_root above (root ▸ under)
    · have there := (has_iff (here.symm ▸ after) root).mp ⟨node, member, rfl⟩
      rw [here, Store.not_holds_deleted sound deleted under] at there
      contradiction

/-- A step goes with its text, which is open, and a step whose name begins alike stays. -/
theorem delete_subtree_step :
    let ws := (empty .absent).after
      [.call (.onStore (.create "step1/text.md" false (.str "text"))),
        .call (.onStore (.create "step1" true .null)), .call (.onStore (.create "step10" true .null)),
        .call (.onStore (.openFile "step1/text.md"))]
    ∃ record, ws.store.files.get? "step1" = some record ∧
      ∃ next removed, ws.delete "step1" = .ok (next, removed) ∧
        ("step1/text.md" : Text) ∈ removed ∧ ("step10" : Text) ∉ removed ∧ next.store.current = .null := by
  intro ws
  have found : ∃ record, ws.store.files.get? "step1" = some record := ⟨_, rfl⟩
  obtain ⟨record, found⟩ := found
  obtain ⟨next, removed, done, _, _, listed, _, goes, _⟩ :=
    delete_subtree .absent _ "step1" record found
  have inside : ("step1/text.md" : Text) ∈ removed := (listed "step1/text.md").mpr ⟨by decide, by decide⟩
  have beside : ("step10" : Text) ∉ removed := fun there =>
    absurd ((listed "step10").mp there).2 (by decide)
  exact ⟨record, found, next, removed, done, inside, beside, goes _ inside rfl⟩

end Workspace
end LabEditor
