import LabEditor.Proofs.Store.Folders
import LabEditor.Proofs.Tree.Nodes
import LabEditor.Proofs.Workspace.Soundness

/-! What the tree of a workspace shows, said of its records and of its table of open folders: a node
at each path that a record lies at or under, which is a folder if something lies under it or its
record is one. -/
namespace LabEditor

/-- The tree shows a node of a kind at a path, open or closed. -/
def Node.Shows (tree : Node) (path : Text) (isFolder isExpanded : Bool) : Prop :=
  ∃ node ∈ tree.walk, node.path = path ∧ node.isFolder = isFolder ∧ node.isExpanded = isExpanded

def Node.Has (tree : Node) (path : Text) : Prop :=
  ∃ node ∈ tree.walk, node.path = path

theorem Node.has_iff_shows {tree : Node} {path : Text} :
    tree.Has path ↔ ∃ isFolder isExpanded, tree.Shows path isFolder isExpanded := by
  constructor
  · rintro ⟨node, member, same⟩
    exact ⟨_, _, node, member, same, rfl, rfl⟩
  · rintro ⟨_, _, node, member, same, _, _⟩
    exact ⟨node, member, same⟩

namespace Store
variable {store : Store} {path : Text}

/-- The records as the tree takes them. -/
def outline (store : Store) : List (Text × Bool) :=
  store.records.map fun record => (record.path, record.isDirectory)

theorem mem_outline (sound : store.Sound) : (path, mark) ∈ store.outline ↔
    ∃ record, store.files.get? path = some record ∧ record.isDirectory = mark := by
  have member : ∀ record, record ∈ store.records ↔ ∃ key, (key, record) ∈ store.files := by
    intro record
    simp [records_sorted, (perm_sorted store).mem_iff]
  simp only [outline, List.mem_map, Prod.mk.injEq, member]
  constructor
  · rintro ⟨record, ⟨key, there⟩, rfl, rfl⟩
    exact ⟨record, Table.get?_of_mem sound.distinct (sound.paths _ there ▸ there), rfl⟩
  · rintro ⟨record, found, rfl⟩
    exact ⟨record, ⟨path, Table.mem_of_get? found⟩, (sound.found found).own, rfl⟩

theorem outline_places (sound : store.Sound) : ∀ entry ∈ store.outline, Path.IsPlace entry.1 := by
  rintro ⟨path, mark⟩ member
  obtain ⟨record, found, _⟩ := (mem_outline sound).mp member
  exact (sound.found found).place

theorem holds_outline (sound : store.Sound) :
    (∃ entry ∈ store.outline, Path.isWithin entry.1 path = true) ↔
      holds store.files path = true := by
  rw [holds_iff]
  constructor
  · rintro ⟨⟨key, mark⟩, member, within⟩
    obtain ⟨record, found, _⟩ := (mem_outline sound).mp member
    exact ⟨key, Table.mem_keys_of_get? found, within⟩
  · rintro ⟨key, member, within⟩
    obtain ⟨record, there⟩ := Table.mem_keys.mp member
    have found := Table.get?_of_mem sound.distinct there
    exact ⟨_, (mem_outline sound).mpr ⟨record, found, rfl⟩, within⟩

theorem isFolder_outline (sound : store.Sound) :
    (∃ entry ∈ store.outline, Path.isAncestor path entry.1 = true ∨ entry = (path, true)) ↔
      isFolder store.files path = true := by
  rw [isFolder_iff]
  constructor
  · rintro ⟨⟨key, mark⟩, member, above | own⟩
    · obtain ⟨record, found, _⟩ := (mem_outline sound).mp member
      exact Or.inl ⟨key, Table.mem_keys_of_get? found, above⟩
    · cases own
      exact Or.inr ((mem_outline sound).mp member)
  · rintro (⟨key, member, above⟩ | own)
    · obtain ⟨record, there⟩ := Table.mem_keys.mp member
      have found := Table.get?_of_mem sound.distinct there
      exact ⟨_, (mem_outline sound).mpr ⟨record, found, rfl⟩, Or.inl above⟩
    · exact ⟨_, (mem_outline sound).mpr own, Or.inr rfl⟩

end Store

namespace Workspace
variable {ws next : Workspace} {path : Text}

theorem tree_build (ws : Workspace) :
    ws.tree = Node.build ws.store.outline ws.expansion.isExpanded := rfl

/-- Without strays, what is listed has its order and its tree. -/
theorem listedTree_sound (sound : ws.store.Sound) : ws.listedTree = .ok ws.tree := by
  have paths :
      ws.store.listing.map Record.Written.path = (ws.store.records.map Record.path).map .str := by
    rw [Store.listing_plain sound.plain, List.map_map, List.map_map]
    rfl
  rw [listedTree, Store.checkOrder_plain sound.plain, Outcome.ok_bind, Node.ofWritten, paths,
    Store.haveOrder_texts, Store.listing_plain sound.plain, List.mapM_map]
  have entries : ws.store.records.mapM (fun record =>
      (pure (record.path, record.isDirectory) : Except Fault _)) =
      pure ws.store.outline := List.mapM_pure
  exact congrArg (· >>= fun written => pure (Node.build written ws.expansion.isExpanded)) entries

theorem tree_walk (ws : Workspace) : ws.tree.walk = ws.tree :: Node.walkAll ws.tree.children :=
  Node.walk_eq ws.tree

/-- The root is a folder and always open, and no other node has its path. -/
theorem shows_root {isFolder isExpanded : Bool} :
    ws.tree.Shows [] isFolder isExpanded ↔ isFolder = true ∧ isExpanded = true := by
  constructor
  · rintro ⟨node, member, none, rfl, rfl⟩
    rcases Node.mem_walk.mp member with rfl | below
    · exact ⟨rfl, rfl⟩
    · exact absurd none (Node.canonical_below below).2
  · rintro ⟨rfl, rfl⟩
    exact ⟨ws.tree, Node.mem_walk.mpr (Or.inl rfl), rfl, rfl, rfl⟩

theorem shows_iff (sound : ws.store.Sound) (some : path ≠ []) {isFolder isExpanded : Bool} :
    ws.tree.Shows path isFolder isExpanded ↔
      Store.holds ws.store.files path = true ∧ isFolder = Store.isFolder ws.store.files path ∧
        isExpanded = (Store.isFolder ws.store.files path && ws.expansion.isExpanded path) := by
  have places := Store.outline_places sound
  have flags : ∀ node ∈ Node.walkAll ws.tree.children, node.path = path →
      node.isFolder = Store.isFolder ws.store.files path ∧
        node.isExpanded = (Store.isFolder ws.store.files path && ws.expansion.isExpanded path) := by
    rintro node below rfl
    have folder : node.isFolder = Store.isFolder ws.store.files node.path := by
      rw [Bool.eq_iff_iff, ← Store.isFolder_outline sound]
      exact Node.isFolder_below places below
    exact ⟨folder, by rw [Node.isExpanded_below below, folder]⟩
  rw [← Store.holds_outline sound, ← Node.mem_below places, ← tree_build]
  constructor
  · rintro ⟨node, member, rfl, rfl, rfl⟩
    rcases Node.mem_walk.mp member with rfl | below
    · exact absurd rfl some
    · exact ⟨⟨node, below, rfl⟩, flags node below rfl⟩
  · rintro ⟨⟨node, below, same⟩, rfl, rfl⟩
    obtain ⟨folder, expanded⟩ := flags node below same
    exact ⟨node, Node.mem_walk.mpr (Or.inr below), same, folder, expanded⟩

theorem has_iff (sound : ws.store.Sound) (some : path ≠ []) :
    ws.tree.Has path ↔ Store.holds ws.store.files path = true := by
  rw [Node.has_iff_shows]
  simp only [shows_iff sound some]
  exact ⟨fun ⟨_, _, there, _⟩ => there, fun there => ⟨_, _, there, rfl, rfl⟩⟩

theorem isChild_iff (sound : ws.store.Sound) {folder : Text} :
    ws.tree.IsChild folder path ↔
      folder = Path.parent path ∧ Store.holds ws.store.files path = true := by
  rw [tree_build, Node.isChild_build (Store.outline_places sound), Store.holds_outline sound]

/-- A tree has one node for a path. -/
theorem nodup_walk (ws : Workspace) : (ws.tree.walk.map Node.path).Nodup := by
  rw [tree_walk, List.map_cons, List.nodup_cons]
  refine ⟨fun again => ?_, Node.nodup_build⟩
  obtain ⟨node, below, none⟩ := List.mem_map.mp again
  exact (Node.canonical_below below).2 none

theorem checkFolder_ok (folder : ws.checkFolder path = .ok ()) :
    Store.isFolder ws.store.files path = true := by
  rw [checkFolder] at folder
  rw [Store.isFolder]
  cases found : ws.store.files.get? path with
  | some record =>
    simp only [found] at folder
    by_cases kind : record.isDirectory = true
    · simp [kind]
    · simp [kind] at folder
  | none =>
    simp only [found] at folder
    by_cases above : ws.store.files.keys.any (Path.isAncestor path) = true
    · simp [above]
    · simp only [above, Bool.false_eq_true, if_false] at folder
      split at folder <;> contradiction

end Workspace

/-- What holds of a table of open folders whatever was done to it. -/
structure Expansion.Sound (expansion : Expansion) : Prop where
  distinct : expansion.table.keys.Nodup
  places : ∀ key ∈ expansion.table.keys, Path.IsPlace key

namespace Expansion
variable {expansion : Expansion} {path old new : Text}

theorem table_toggle : (expansion.toggle path).1.table =
    expansion.table.put path (!expansion.isExpanded path) :=
  rfl

theorem table_forget :
    (expansion.forget path).table = expansion.table.keep fun key => !Path.isWithin key path := rfl

theorem table_rebase : (expansion.rebase old new).table =
    Table.ofEntries (expansion.table.map fun (key, expanded) =>
      (Path.relocated old new key, expanded)) := rfl

namespace Sound

theorem empty : Expansion.empty.Sound where
  distinct := List.nodup_nil
  places := fun _ none => absurd none List.not_mem_nil

theorem toggle (sound : expansion.Sound) (place : Path.IsPlace path) :
    (expansion.toggle path).1.Sound where
  distinct := Table.nodup_put sound.distinct
  places := by
    intro key member
    rw [table_toggle] at member
    rcases Table.mem_keys_put.mp member with before | rfl
    · exact sound.places key before
    · exact place

theorem rebase (sound : expansion.Sound) (target : Path.IsPlace new) :
    (expansion.rebase old new).Sound where
  distinct := Table.nodup_ofEntries _
  places := by
    intro key member
    obtain ⟨value, there⟩ := Table.mem_keys.mp member
    rw [table_rebase] at there
    obtain ⟨⟨before, value⟩, known, same⟩ := List.mem_map.mp (Table.mem_ofEntries there)
    have place := sound.places before (Table.mem_keys.mpr ⟨value, known⟩)
    cases same
    exact place.relocated target

theorem forget (sound : expansion.Sound) (path : Text) : (expansion.forget path).Sound where
  distinct := by
    rw [table_forget]
    exact Table.nodup_keep sound.distinct
  places := by
    intro key member
    rw [table_forget, Table.keys_keep] at member
    exact sound.places key (List.mem_filter.mp member).1

theorem leads {ws next : Workspace} (sound : ws.expansion.Sound) (store : ws.store.Sound)
    (leads : Workspace.Leads ws contents texts labels? next) : next.expansion.Sound := by
  cases leads with
  | records call given worded done =>
    rw [Workspace.withStore_expansion]
    exact sound
  | relocated worded relocated =>
    rw [Workspace.save_expansion]
    exact sound.rebase (relocated.suits store).place
  | deleted deleted =>
    rw [Workspace.save_expansion]
    exact sound.forget _
  | toggled folder =>
    rw [Workspace.save_expansion]
    exact sound.toggle
      (Store.place_of_holds store (Store.holds_of_isFolder (Workspace.checkFolder_ok folder)))
  | settings settings =>
    rw [Workspace.save_expansion]
    exact sound
  | submitted id clock labName authorName worded =>
    rw [Workspace.recordSubmission, Workspace.save_expansion]
    exact sound
  | restored known replaced =>
    rw [Workspace.withStore_expansion]
    exact sound

theorem step {ws : Workspace} (sound : ws.expansion.Sound) (store : ws.store.Sound)
    (step : Workspace.Step) :
    (ws.step step).expansion.Sound := by
  cases step with
  | call call =>
    rcases Workspace.step_call ws call with same | done
    · rwa [same]
    · exact sound.leads store (.outcome call done)
  | scaffold title image =>
    rw [Workspace.step_scaffold, Workspace.withStore_expansion]
    exact sound

theorem after (disk : Disk) (steps : List Workspace.Step) :
    ((Workspace.empty disk).after steps).expansion.Sound := by
  have both : ((Workspace.empty disk).after steps).Sound ∧
      ((Workspace.empty disk).after steps).expansion.Sound := by
    apply Workspace.after_induction (P := fun ws => ws.Sound ∧ ws.expansion.Sound)
    · exact ⟨Workspace.Sound.empty disk, empty⟩
    · rintro ws ⟨sound, folders⟩ step
      exact ⟨sound.step step, folders.step sound.store step⟩
  exact both.2

end Sound
end Expansion
end LabEditor
