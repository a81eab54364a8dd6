import LabEditor.Proofs.Tree.Shape

/-! The tree as it grows from path to path. A path makes nodes where none are yet, and folders of the
nodes that it goes through, so that what was a file may turn out to be a folder; the nodes are put in
order when all paths are in. The result is the tree that is built from all paths at once. -/
namespace LabEditor.Node
variable {trails : List Trail} {expanded : Text → Bool} {depth : Nat} {above rest segments : List Text}
  {name : Text} {isDirectory : Bool}

/-- A node that one more path has come to, and what is below it then. -/
def enter (isFolder : Bool) (below : List Node → List Node) : Node → Node
  | .file name path => if isFolder then .folder name path false (below []) else .file name path
  | .folder name path expanded children => .folder name path expanded (below children)

/-- The nodes under the folder `above` when one more path has come in. A new node is the last. -/
def grow (isDirectory : Bool) : (segments above : List Text) → List Node → List Node
  | [], _, nodes => nodes
  | name :: rest, above, nodes =>
    let place := above ++ [name]
    let come := enter (!rest.isEmpty || isDirectory) (grow isDirectory rest place)
    if nodes.any fun node => node.name == name then
      nodes.map fun node => if node.name = name then come node else node
    else nodes ++ [come (.file name (Path.ofSegments place))]

mutual

/-- A node with all below it in order, and with the folders open that are to be. -/
def arrange (expanded : Text → Bool) : Node → Node
  | .file name path => .file name path
  | .folder name path _ children =>
    .folder name path (expanded path) (Order.sortBy before (arrangeAll expanded children))

def arrangeAll (expanded : Text → Bool) : List Node → List Node
  | [] => []
  | node :: nodes => arrange expanded node :: arrangeAll expanded nodes

end

/-- The tree that has grown from the entries in the order of their paths. -/
def grown (entries : List (Text × Bool)) (expanded : Text → Bool) : Node :=
  let sorted := Order.sortBy (fun a b => Text.le a.1 b.1) entries
  let nodes := sorted.foldl (fun nodes entry => grow entry.2 (Path.segments entry.1) [] nodes) []
  .folder [] [] true (Order.sortBy before (arrangeAll expanded nodes))

/-- Whether trails go on behind a place, or one of them is that of a folder record. -/
def opens (trails : List Trail) : Bool :=
  trails.any fun trail => !trail.1.isEmpty || trail.2

/-- What has grown under the folder `above`, in the order in which it came. -/
def sprouts : (depth : Nat) → (above : List Text) → List Trail → List Node
  | 0, _, _ => []
  | depth + 1, above, trails =>
    (heads trails).map fun name =>
      let path := Path.ofSegments (above ++ [name])
      if opens (through name trails) then
        .folder name path false (sprouts depth (above ++ [name]) (through name trails))
      else .file name path

/-- The node of a name among what has grown. -/
def sprout (depth : Nat) (above : List Text) (trails : List Trail) (name : Text) : Node :=
  let path := Path.ofSegments (above ++ [name])
  if opens (through name trails) then
    .folder name path false (sprouts depth (above ++ [name]) (through name trails))
  else .file name path

theorem sprouts_succ (depth : Nat) (above : List Text) (trails : List Trail) :
    sprouts (depth + 1) above trails = (heads trails).map (sprout depth above trails) :=
  rfl

theorem name_sprout : (sprout depth above trails name).name = name := by
  rw [sprout]
  split <;> rfl

theorem nodeOf_eq : nodeOf expanded depth above trails name =
    if opens (through name trails) then
      .folder name (Path.ofSegments (above ++ [name])) (expanded (Path.ofSegments (above ++ [name])))
        (forest expanded depth (above ++ [name]) (through name trails))
    else .file name (Path.ofSegments (above ++ [name])) :=
  rfl

theorem through_of_absent (absent : name ∉ heads trails) : through name trails = [] := by
  rw [List.eq_nil_iff_forall_not_mem]
  rintro ⟨rest, mark⟩ member
  exact absent (mem_heads.mpr ⟨rest, mark, mem_through.mp member⟩)

theorem sprouts_closed (closed : opens trails = false) : sprouts depth above trails = [] := by
  cases depth with
  | zero => rfl
  | succ depth =>
    have none : heads trails = [] := by
      rw [List.eq_nil_iff_forall_not_mem]
      intro name member
      obtain ⟨rest, mark, known⟩ := mem_heads.mp member
      exact Bool.false_ne_true (closed.symm.trans (List.any_eq_true.mpr ⟨_, known, rfl⟩))
    rw [sprouts_succ, none]
    rfl

theorem through_append (name : Text) (trails others : List Trail) :
    through name (trails ++ others) = through name trails ++ through name others :=
  List.filterMap_append

theorem through_self : through name [(name :: rest, isDirectory)] = [(rest, isDirectory)] := by
  simp [through]

theorem through_other (apart : first ≠ name) : through name [(first :: rest, isDirectory)] = [] := by
  simp [through, apart]

theorem heads_concat : heads (trails ++ [(name :: rest, isDirectory)]) =
    if name ∈ heads trails then heads trails else heads trails ++ [name] := by
  have known : name ∈ heads trails ↔ name ∈ trails.filterMap (·.1.head?) := List.mem_eraseDups
  have last : [((name :: rest, isDirectory) : Trail)].filterMap (·.1.head?) = [name] := rfl
  rw [heads, List.filterMap_append, List.eraseDups_append, last]
  split
  · rename_i found
    simp [List.removeAll, known.mp found, heads]
  · rename_i absent
    have fresh : [name].removeAll (trails.filterMap (·.1.head?)) = [name] := by
      simp [List.removeAll, known.not.mp absent]
    rw [fresh]
    rfl

theorem opens_concat :
    opens (trails ++ [(rest, isDirectory)]) = (opens trails || (!rest.isEmpty || isDirectory)) := by
  simp [opens]

/-- The node of a name grows as the trail that goes through it says. -/
theorem enter_sprout
    (grown : grow isDirectory rest (above ++ [name])
        (sprouts depth (above ++ [name]) (through name trails)) =
      sprouts depth (above ++ [name]) (through name trails ++ [(rest, isDirectory)])) :
    enter (!rest.isEmpty || isDirectory) (grow isDirectory rest (above ++ [name]))
        (sprout depth above trails name) =
      sprout depth above (trails ++ [(name :: rest, isDirectory)]) name := by
  rw [sprout, sprout, through_append, through_self, opens_concat, ← grown]
  cases opened : opens (through name trails) with
  | true => rfl
  | false =>
    rw [sprouts_closed opened, Bool.false_or]
    rfl

theorem sprout_other (apart : first ≠ name) :
    sprout depth above (trails ++ [(first :: rest, isDirectory)]) name =
      sprout depth above trails name := by
  rw [sprout, sprout, through_append, through_other apart, List.append_nil]

theorem sprouts_root :
    sprouts depth above (trails ++ [([], isDirectory)]) = sprouts depth above trails := by
  cases depth with
  | zero => rfl
  | succ depth =>
    have first : heads (trails ++ [([], isDirectory)]) = heads trails := by
      rw [heads, List.filterMap_append]
      exact congrArg List.eraseDups (List.append_nil _)
    rw [sprouts_succ, sprouts_succ, first]
    refine List.map_congr_left fun name _ => ?_
    have nothing : through name [([], isDirectory)] = [] := rfl
    rw [sprout, sprout, through_append, nothing, List.append_nil]

/-- One more path makes of what has grown what grows with its trail. -/
theorem grow_sprouts (deep : segments.length ≤ depth) :
    grow isDirectory segments above (sprouts depth above trails) =
      sprouts depth above (trails ++ [(segments, isDirectory)]) := by
  -- Behind its first name the path comes to what has grown from the trails that went there before.
  induction segments generalizing depth above trails with
  | nil => rw [grow, sprouts_root]
  | cons name rest ih =>
    cases depth with
    | zero => contradiction
    | succ depth =>
      have entered : enter (!rest.isEmpty || isDirectory) (grow isDirectory rest (above ++ [name]))
          (sprout depth above trails name) =
            sprout depth above (trails ++ [(name :: rest, isDirectory)]) name :=
        enter_sprout (ih (Nat.le_of_succ_le_succ deep))
      have there : ((sprouts (depth + 1) above trails).any fun node => node.name == name) = true ↔
          name ∈ heads trails := by
        simp [sprouts_succ, name_sprout]
      rw [grow, sprouts_succ depth above (trails ++ _), heads_concat]
      simp only [there]
      split
      · rw [sprouts_succ, List.map_map]
        refine List.map_congr_left fun other _ => ?_
        rw [Function.comp_apply, name_sprout]
        split
        · rename_i same
          rw [same, entered]
        · rename_i apart
          rw [sprout_other (Ne.symm apart)]
      · rename_i absent
        have fresh : sprout depth above trails name =
            .file name (Path.ofSegments (above ++ [name])) := by
          rw [sprout, through_of_absent absent]
          rfl
        rw [List.map_append, List.map_singleton, ← entered, fresh, sprouts_succ]
        congr 1
        refine List.map_congr_left fun other member => ?_
        have apart : name ≠ other := fun same => absent (same ▸ member)
        rw [sprout_other apart]

theorem foldl_grow (trails : List Trail)
    (deep : ∀ entry ∈ entries, (Path.segments entry.1).length ≤ depth) :
    entries.foldl (fun nodes entry => grow entry.2 (Path.segments entry.1) [] nodes)
        (sprouts depth [] trails) =
      sprouts depth [] (trails ++ trailsOf entries) := by
  induction entries generalizing trails with
  | nil => rw [List.foldl_nil, trailsOf, List.map_nil, List.append_nil]
  | cons entry entries ih =>
    obtain ⟨path, mark⟩ := entry
    rw [List.foldl_cons, grow_sprouts (deep _ List.mem_cons_self),
      ih _ fun entry member => deep entry (List.mem_cons_of_mem _ member), List.append_assoc]
    rfl

theorem arrangeAll_map (nodes : List Node) :
    arrangeAll expanded nodes = nodes.map (arrange expanded) := by
  induction nodes with
  | nil => rfl
  | cons node nodes ih => rw [arrangeAll, ih, List.map_cons]

theorem arrange_sprouts : Order.sortBy before (arrangeAll expanded (sprouts depth above trails)) =
    forest expanded depth above trails := by
  induction depth generalizing above trails with
  | zero => rfl
  | succ depth ih =>
    rw [sprouts_succ, arrangeAll_map, List.map_map, forest_succ]
    congr 1
    refine List.map_congr_left fun name _ => ?_
    rw [Function.comp_apply, sprout, nodeOf_eq]
    split
    · rw [arrange, ih]
    · rfl

/-- What grows from path to path is the tree that the paths say. -/
theorem grown_eq_build (entries : List (Text × Bool)) (expanded : Text → Bool) :
    grown entries expanded = build entries expanded := by
  have perm := Order.perm_sortBy (fun a b : Text × Bool => Text.le a.1 b.1) entries
  rw [← build_congr fun entry => perm.mem_iff, grown]
  generalize Order.sortBy (fun a b : Text × Bool => Text.le a.1 b.1) entries = sorted
  have deep : ∀ entry ∈ sorted, (Path.segments entry.1).length ≤ deepest sorted := by
    rintro ⟨path, mark⟩ member
    exact length_le_deepest (mem_trailsOf.mpr ⟨path, member, rfl⟩)
  have start : sprouts (deepest sorted) [] [] = [] := sprouts_closed rfl
  have nodes := foldl_grow [] deep
  rw [start, List.nil_append] at nodes
  simp only [nodes, arrange_sprouts]
  rfl

end LabEditor.Node
