import LabEditor.Proofs.Store.Tree
import LabEditor.Proofs.Workspace.Tree

/-! Opening and closing folders, and the tree that is shown. A call asks the records whether there is
a folder at a path; the tree makes its folders out of segments. In a folder tree the two agree, and
what a toggle changes is one mark of one node. -/
namespace LabEditor

namespace Node
variable {trails : List Trail} {expanded : Text → Bool} {depth : Nat} {above : List Text}
  {name path : Text} {entries : List (Text × Bool)} {mark : Text → Bool → Bool}

mutual

/-- The tree with other marks on its folders. -/
def remark (mark : Text → Bool → Bool) : Node → Node
  | .file name path => .file name path
  | .folder name path expanded children =>
    .folder name path (mark path expanded) (remarkAll mark children)

def remarkAll (mark : Text → Bool → Bool) : List Node → List Node
  | [] => []
  | node :: nodes => remark mark node :: remarkAll mark nodes

end

/-- The other mark at one path, and the same mark everywhere else. -/
def flipMark (path place : Text) (expanded : Bool) : Bool :=
  if place = path then !expanded else expanded

/-- The tree with the folder at a path closed if it was open, and open if it was closed. -/
def flip (path : Text) : Node → Node :=
  remark (flipMark path)

theorem remarkAll_eq (nodes : List Node) : remarkAll mark nodes = nodes.map (remark mark) := by
  induction nodes with
  | nil => rfl
  | cons node nodes ih => rw [remarkAll, ih, List.map_cons]

theorem before_remark (a b : Node) : before (remark mark a) (remark mark b) = before a b := by
  cases a <;> cases b <;> rfl

theorem nodeOf_remark
    (below : forest (fun path => mark path (expanded path)) depth (above ++ [name])
        (through name trails) =
      (forest expanded depth (above ++ [name]) (through name trails)).map (remark mark)) :
    nodeOf (fun path => mark path (expanded path)) depth above trails name =
      remark mark (nodeOf expanded depth above trails name) := by
  rw [nodeOf, nodeOf]
  split
  · rw [remark, remarkAll_eq, below]
  · rfl

/-- The marks have no part in where the nodes are. -/
theorem forest_remark : forest (fun path => mark path (expanded path)) depth above trails =
    (forest expanded depth above trails).map (remark mark) := by
  induction depth generalizing above trails with
  | zero => rfl
  | succ depth ih =>
    have nodes : nodeOf (fun path => mark path (expanded path)) depth above trails =
        remark mark ∘ nodeOf expanded depth above trails :=
      funext fun name => nodeOf_remark ih
    rw [forest_succ, forest_succ, nodes, ← List.map_map, Order.sortBy_map before_remark]

theorem build_remark (root : mark [] true = true) :
    build entries (fun path => mark path (expanded path)) =
      (build entries expanded).remark mark := by
  change folder [] [] true (forest _ (deepest entries) [] (trailsOf entries)) =
    folder [] [] (mark [] true) (remarkAll mark _)
  rw [root, remarkAll_eq, forest_remark]
  rfl

end Node

theorem Expansion.isExpanded_toggle (expansion : Expansion) (path place : Text) :
    (expansion.toggle path).1.isExpanded place =
      Node.flipMark path place (expansion.isExpanded place) := by
  rw [isExpanded, table_toggle, Table.get?_put, Node.flipMark]
  split
  · rename_i same
    rw [same, Option.getD_some]
  · rfl

namespace Workspace
variable {ws : Workspace} {path : Text}

/-- A path is taken for that of a folder exactly if there is a folder at it. In a folder tree nothing
lies under a file, which is refused before it is looked for what lies under it. -/
theorem checkFolder_eq (sound : ws.store.Sound) (isTree : Store.IsTree ws.store.files)
    (path : Text) :
    ws.checkFolder path =
      if Store.isFolder ws.store.files path then .ok ()
      else .error (.refusal
        (if Store.isFile ws.store.files path then .notADirectory path else .notFound path)) := by
  rw [checkFolder, Store.isFolder, Store.isFile]
  cases found : ws.store.files.get? path with
  | some record =>
    cases kind : record.isDirectory with
    | true => simp [kind]
    | false =>
      have file := Store.isFile_iff.mpr ⟨record, found, kind⟩
      have under : ws.store.files.keys.any (Path.isAncestor path) = false := by
        rw [List.any_eq_false]
        intro key member above
        exact Bool.false_ne_true ((isTree.apart file member).symm.trans above)
      simp [kind, under]
  | none =>
    have plain : ws.store.strays.entries = [] := by
      rw [sound.plain]
      rfl
    simp [plain]

/-- The workspace with a folder opened or closed. -/
def toggled (ws : Workspace) (path : Text) : Workspace :=
  { ws with expansion := (ws.expansion.toggle path).1 }.save

theorem toggleFolder_ok (sound : ws.store.Sound) (isTree : Store.IsTree ws.store.files)
    (folder : Store.isFolder ws.store.files path = true) :
    ws.toggleFolder path = .ok (ws.toggled path, !ws.expansion.isExpanded path) := by
  rw [toggleFolder, checkFolder_eq sound isTree, if_pos folder]
  rfl

theorem toggleFolder_refused (sound : ws.store.Sound) (isTree : Store.IsTree ws.store.files)
    (none : ¬ Store.isFolder ws.store.files path = true) :
    ws.toggleFolder path = .error (.refusal
      (if Store.isFile ws.store.files path then .notADirectory path else .notFound path)) := by
  rw [toggleFolder, checkFolder_eq sound isTree, if_neg none]
  rfl

/-- The folders of the tree below its root. -/
theorem exists_folder_iff (sound : ws.store.Sound) :
    (∃ node ∈ Node.walkAll ws.tree.children, node.path = path ∧ node.isFolder = true) ↔
      Store.isFolder ws.store.files path = true := by
  have places := Store.outline_places sound
  constructor
  · rintro ⟨node, below, rfl, folder⟩
    exact (Store.isFolder_outline sound).mp ((Node.isFolder_below places below).mp folder)
  · intro folder
    have there : ∃ node ∈ Node.walkAll ws.tree.children, node.path = path :=
      (Node.mem_below places).mpr
        ((Store.holds_outline sound).mpr (Store.holds_of_isFolder folder))
    obtain ⟨node, below, rfl⟩ := there
    exact ⟨node, below, rfl,
      (Node.isFolder_below places below).mpr ((Store.isFolder_outline sound).mpr folder)⟩

/-- A path other than that of the root has its mark changed, and none but its own. -/
theorem tree_toggled (some : path ≠ []) : (ws.toggled path).tree = ws.tree.flip path := by
  have marks : (ws.expansion.toggle path).1.isExpanded =
      fun place => Node.flipMark path place (ws.expansion.isExpanded place) :=
    funext (Expansion.isExpanded_toggle ws.expansion path)
  have root : Node.flipMark path [] true = true := if_neg some.symm
  rw [tree_build, toggled, save_store, save_expansion, marks, Node.build_remark root]
  rfl

/-- Wherever a run stands in a folder tree, a toggle succeeds exactly at the folders that are shown
below the root. It answers with the new mark of that one node, which is all that changes in the tree.
Everywhere else it is refused and changes nothing. -/
theorem toggleFolder_agrees (disk : Disk) (steps : List Step)
    (isTree : Store.IsTree ((empty disk).after steps).store.files) (path : Text) :
    let ws := (empty disk).after steps
    ∃ shown, ws.listedTree = .ok shown ∧
      ((∃ result, ws.toggleFolder path = .ok result) ↔
        ∃ node ∈ Node.walkAll shown.children, node.path = path ∧ node.isFolder = true) ∧
      (∀ node ∈ Node.walkAll shown.children, node.path = path → node.isFolder = true →
        (∀ other ∈ shown.walk, other.path = path → other = node) ∧
        ∃ next, ws.toggleFolder path = .ok (next, !node.isExpanded) ∧
          next.listedTree = .ok (shown.flip path)) ∧
      ((¬ ∃ node ∈ Node.walkAll shown.children, node.path = path ∧ node.isFolder = true) →
        ws.toggleFolder path = .error (.refusal
          (if Store.isFile ws.store.files path then .notADirectory path else .notFound path)) ∧
        ws.step (.call (.toggleFolder path)) = ws) := by
  intro ws
  have sound : ws.store.Sound := ((Sound.empty disk).after steps).store
  refine ⟨ws.tree, listedTree_sound sound, ?_, ?_, ?_⟩
  · rw [exists_folder_iff sound]
    constructor
    · rintro ⟨result, done⟩
      by_contra none
      rw [toggleFolder_refused sound isTree none] at done
      contradiction
    · intro folder
      exact ⟨_, toggleFolder_ok sound isTree folder⟩
  · intro node below same kind
    have folder := (exists_folder_iff sound).mp ⟨node, below, same, kind⟩
    have expanded : node.isExpanded = ws.expansion.isExpanded path := by
      rw [Node.isExpanded_below below, kind, Bool.true_and, same]
    have inside : node ∈ ws.tree.walk := Node.mem_walk.mpr (Or.inr below)
    refine ⟨?_, ws.toggled path, ?_, ?_⟩
    · intro other member again
      exact List.inj_on_of_nodup_map (nodup_walk ws) member inside (again.trans same.symm)
    · rw [expanded]
      exact toggleFolder_ok sound isTree folder
    · have after : (ws.toggled path).store.Sound := by
        rw [toggled, save_store]
        exact sound
      have some : path ≠ [] := same ▸ (Node.canonical_below below).2
      rw [listedTree_sound after, tree_toggled some]
  · intro none
    rw [exists_folder_iff sound] at none
    have refused := toggleFolder_refused sound isTree none
    have failed : (Call.toggleFolder path).outcome ws = .error (.refusal
        (if Store.isFile ws.store.files path then .notADirectory path else .notFound path)) := by
      rw [Call.outcome, refused]
      rfl
    exact ⟨refused, step_error failed⟩

/-- A folder without a record opens; the file in it does not. -/
theorem toggleFolder_agrees_docs :
    let ws := (empty .absent).after [.call (.onStore (.create "docs/a.md" false (.str "text")))]
    Store.IsTree ws.store.files ∧
      ∃ shown, ws.listedTree = .ok shown ∧
        (∃ next, ws.toggleFolder "docs" = .ok (next, true) ∧
          next.listedTree = .ok (shown.flip "docs")) ∧
        ws.toggleFolder "docs/a.md" = .error (.refusal (.notADirectory "docs/a.md")) := by
  intro ws
  have isTree : Store.IsTree ws.store.files := by decide
  have sound : ws.store.Sound := ((Sound.empty .absent).after _).store
  obtain ⟨shown, listed, _, folder, _⟩ := toggleFolder_agrees .absent _ isTree "docs"
  cases (listedTree_sound sound).symm.trans listed
  obtain ⟨_, opened⟩ := folder (.folder "docs" "docs" false [.file "a.md" "docs/a.md"])
    List.mem_cons_self rfl rfl
  obtain ⟨same, again, _, _, none⟩ := toggleFolder_agrees .absent _ isTree "docs/a.md"
  cases (listedTree_sound sound).symm.trans again
  refine ⟨isTree, ws.tree, listed, opened, (none ?_).1⟩
  rw [exists_folder_iff sound]
  decide

end Workspace
end LabEditor
