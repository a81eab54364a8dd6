import LabEditor.Proofs.Order
import LabEditor.Proofs.Path.Place
import LabEditor.Tree.Node

/-! The nodes of a tree. Each stands for a place that some path goes to or through; what is under it
and whether it is a folder depend on the paths that do, and on nothing else. -/
namespace LabEditor.Node
variable {trails : List Trail} {expanded : Text → Bool} {depth : Nat} {above inner rest : List Text}
  {name : Text} {node : Node}

theorem mem_through :
    (rest, isDirectory) ∈ through name trails ↔ (name :: rest, isDirectory) ∈ trails := by
  simp only [through, List.mem_filterMap, Prod.exists]
  constructor
  · rintro ⟨segments, mark, member, found⟩
    cases segments with
    | nil => contradiction
    | cons head tail =>
      by_cases same : head = name
      · simp only [same, if_true, Option.some.injEq, Prod.mk.injEq] at found
        obtain ⟨rfl, rfl⟩ := found
        exact same ▸ member
      · simp [same] at found
  · intro member
    exact ⟨name :: rest, isDirectory, member, by simp⟩

theorem mem_heads :
    name ∈ heads trails ↔ ∃ rest isDirectory, (name :: rest, isDirectory) ∈ trails := by
  simp only [heads, List.mem_eraseDups, List.mem_filterMap, Prod.exists, List.head?_eq_some_iff]
  constructor
  · rintro ⟨segments, mark, member, tail, rfl⟩
    exact ⟨tail, mark, member⟩
  · rintro ⟨tail, mark, member⟩
    exact ⟨name :: tail, mark, member, tail, rfl⟩

/-- The trails that go through a place, from behind it. -/
def behind : (place : List Text) → List Trail → List Trail
  | [], trails => trails
  | name :: place, trails => behind place (through name trails)

theorem mem_behind :
    (rest, isDirectory) ∈ behind inner trails ↔ (inner ++ rest, isDirectory) ∈ trails := by
  induction inner generalizing trails with
  | nil => exact Iff.rfl
  | cons name inner ih => rw [behind, ih, mem_through, List.cons_append]

theorem behind_concat : behind (inner ++ [name]) trails = through name (behind inner trails) := by
  induction inner generalizing trails with
  | nil => rfl
  | cons first inner ih => exact ih

theorem mem_heads_behind :
    name ∈ heads (behind inner trails) ↔
      ∃ rest isDirectory, (inner ++ name :: rest, isDirectory) ∈ trails := by
  simp only [mem_heads, mem_behind]

/-- The node of a name under the folder `above`. -/
def nodeOf (expanded : Text → Bool) (depth : Nat) (above : List Text) (trails : List Trail)
    (name : Text) : Node :=
  let path := Path.ofSegments (above ++ [name])
  if (through name trails).any fun (rest, isDirectory) => !rest.isEmpty || isDirectory then
    .folder name path (expanded path)
      (forest expanded depth (above ++ [name]) (through name trails))
  else .file name path

theorem forest_succ : forest expanded (depth + 1) above trails =
    Order.sortBy before ((heads trails).map (nodeOf expanded depth above trails)) :=
  rfl

theorem mem_forest : node ∈ forest expanded (depth + 1) above trails ↔
    ∃ name ∈ heads trails, node = nodeOf expanded depth above trails name := by
  rw [forest_succ, Order.mem_sortBy, List.mem_map]
  constructor
  · rintro ⟨name, member, rfl⟩
    exact ⟨name, member, rfl⟩
  · rintro ⟨name, member, rfl⟩
    exact ⟨name, member, rfl⟩

theorem name_nodeOf : (nodeOf expanded depth above trails name).name = name := by
  rw [nodeOf]
  split <;> rfl

theorem path_nodeOf : (nodeOf expanded depth above trails name).path =
    Path.ofSegments (above ++ [name]) := by
  rw [nodeOf]
  split <;> rfl

theorem isFolder_nodeOf : (nodeOf expanded depth above trails name).isFolder = true ↔
    ∃ rest isDirectory, (name :: rest, isDirectory) ∈ trails ∧
      (rest ≠ [] ∨ isDirectory = true) := by
  have marked :
      ((through name trails).any fun (rest, isDirectory) => !rest.isEmpty || isDirectory) = true ↔
      ∃ rest isDirectory, (name :: rest, isDirectory) ∈ trails ∧
        (rest ≠ [] ∨ isDirectory = true) := by
    simp only [List.any_eq_true, Prod.exists, mem_through, Bool.or_eq_true, Bool.not_eq_true',
      List.isEmpty_eq_false_iff]
  rw [nodeOf, ← marked]
  split
  · rename_i holds
    exact iff_of_true rfl holds
  · rename_i fails
    exact iff_of_false Bool.false_ne_true fails

theorem isExpanded_nodeOf : (nodeOf expanded depth above trails name).isExpanded =
    ((nodeOf expanded depth above trails name).isFolder &&
      expanded (Path.ofSegments (above ++ [name]))) := by
  rw [nodeOf]
  split <;> rfl

theorem forest_nil (none : heads trails = []) : forest expanded depth above trails = [] := by
  cases depth with
  | zero => rfl
  | succ depth =>
    rw [forest, none]
    rfl

/-- A file has no children, and there is nothing behind it either. -/
theorem children_nodeOf : (nodeOf expanded depth above trails name).children =
    forest expanded depth (above ++ [name]) (through name trails) := by
  rw [nodeOf]
  split
  · rfl
  · rename_i file
    refine (forest_nil ?_).symm
    rw [List.eq_nil_iff_forall_not_mem]
    intro first member
    obtain ⟨rest, mark, known⟩ := mem_heads.mp member
    exact file (List.any_eq_true.mpr ⟨_, known, rfl⟩)

theorem mem_walkAll {nodes : List Node} :
    node ∈ walkAll nodes ↔ ∃ top ∈ nodes, node ∈ top.walk := by
  induction nodes with
  | nil => simp [walkAll]
  | cons first nodes ih => simp [walkAll, ih]

theorem mem_walk {top : Node} : node ∈ top.walk ↔ node = top ∨ node ∈ walkAll top.children := by
  cases top with
  | file name path => simp [walk, children, walkAll]
  | folder name path expanded children => simp [walk, Node.children]

theorem mem_walkAll_forest : node ∈ walkAll (forest expanded depth above trails) ↔
    ∃ inner name, inner.length < depth ∧ name ∈ heads (behind inner trails) ∧
      node = nodeOf expanded (depth - (inner.length + 1)) (above ++ inner)
        (behind inner trails) name := by
  induction depth generalizing above trails with
  | zero => simp [forest, walkAll]
  | succ depth ih =>
    simp only [mem_walkAll, mem_forest]
    constructor
    · rintro ⟨_, ⟨name, first, rfl⟩, inside⟩
      rcases mem_walk.mp inside with rfl | below
      · exact ⟨[], name, Nat.succ_pos depth, first, by simp [behind]⟩
      · rw [children_nodeOf, ih] at below
        obtain ⟨inner, last, short, there, rfl⟩ := below
        refine ⟨name :: inner, last, Nat.succ_lt_succ short, there, ?_⟩
        simp [behind]
    · rintro ⟨inner, last, short, there, rfl⟩
      cases inner with
      | nil =>
        refine ⟨_, ⟨last, there, rfl⟩, mem_walk.mpr (Or.inl ?_)⟩
        simp [behind]
      | cons name inner =>
        obtain ⟨rest, mark, known⟩ := mem_heads_behind.mp there
        refine ⟨_, ⟨name, mem_heads.mpr ⟨_, mark, known⟩, rfl⟩, mem_walk.mpr (Or.inr ?_)⟩
        rw [children_nodeOf, ih]
        refine ⟨inner, last, Nat.lt_of_succ_lt_succ short, there, ?_⟩
        simp [behind]

theorem walk_eq (node : Node) : node.walk = node :: walkAll node.children := by
  cases node with
  | file name path => rfl
  | folder name path expanded children => rfl

theorem walkAll_flatMap (nodes : List Node) : walkAll nodes = nodes.flatMap walk := by
  induction nodes with
  | nil => rfl
  | cons first nodes ih => rw [walkAll, ih, List.flatMap_cons]

/-- Trails made of names, so that places determine paths. -/
def Named (trails : List Trail) : Prop :=
  ∀ trail ∈ trails, ∀ segment ∈ trail.1, Path.IsSegment segment

theorem Named.through (named : Named trails) (name : Text) : Named (through name trails) :=
  fun _ member segment inside =>
    named _ (mem_through.mp member) segment (List.mem_cons_of_mem _ inside)

theorem Named.head (named : Named trails) (first : name ∈ heads trails) : Path.IsSegment name := by
  obtain ⟨_, _, known⟩ := mem_heads.mp first
  exact named _ known name List.mem_cons_self

theorem Named.place (named : Named trails) (upper : ∀ segment ∈ above, Path.IsSegment segment)
    (first : name ∈ heads trails) : ∀ segment ∈ above ++ [name], Path.IsSegment segment := by
  intro segment inside
  rcases List.mem_append.mp inside with before | last
  · exact upper segment before
  · exact List.mem_singleton.mp last ▸ named.head first

/-- The names that lead to a node below a folder. -/
theorem segments_walkAll (named : Named trails) (upper : ∀ segment ∈ above, Path.IsSegment segment)
    (member : node ∈ walkAll (forest expanded depth above trails)) :
    ∃ name rest, Path.segments node.path = above ++ name :: rest := by
  obtain ⟨inner, last, _, there, rfl⟩ := mem_walkAll_forest.mp member
  obtain ⟨rest, mark, known⟩ := mem_heads_behind.mp there
  have parts : ∀ segment ∈ above ++ inner ++ [last], Path.IsSegment segment := by
    intro segment inside
    rw [List.append_assoc, List.mem_append] at inside
    rcases inside with before | within
    · exact upper segment before
    · exact named _ known segment (by simp at within ⊢; tauto)
  rw [path_nodeOf, Path.segments_ofSegments parts]
  cases inner with
  | nil => exact ⟨last, [], by simp⟩
  | cons name inner => exact ⟨name, inner ++ [last], by simp⟩

/-- A node is found under its own name, and what is below it is found behind. -/
theorem segments_walk (named : Named trails) (upper : ∀ segment ∈ above, Path.IsSegment segment)
    (first : name ∈ heads trails) (member : node ∈ (nodeOf expanded depth above trails name).walk) :
    ∃ rest, Path.segments node.path = above ++ name :: rest ∧
      (rest = [] → node = nodeOf expanded depth above trails name) := by
  have place := named.place upper first
  rcases mem_walk.mp member with rfl | below
  · exact ⟨[], by rw [path_nodeOf, Path.segments_ofSegments place], fun _ => rfl⟩
  · rw [children_nodeOf] at below
    obtain ⟨next, rest, same⟩ := segments_walkAll (named.through name) place below
    exact ⟨next :: rest, by simpa using same, by simp⟩

theorem nodup_walkAll (named : Named trails) (upper : ∀ segment ∈ above, Path.IsSegment segment) :
    ((walkAll (forest expanded depth above trails)).map path).Nodup := by
  induction depth generalizing above trails with
  | zero => exact List.nodup_nil
  | succ depth ih =>
    have perm : (forest expanded (depth + 1) above trails).Perm
        ((heads trails).map (nodeOf expanded depth above trails)) := by
      rw [forest_succ]
      exact Order.perm_sortBy _ _
    rw [walkAll_flatMap, ((perm.flatMap_right walk).map path).nodup_iff, List.map_flatMap,
      List.nodup_flatMap]
    constructor
    · intro node member
      obtain ⟨name, first, rfl⟩ := List.mem_map.mp member
      have place := named.place upper first
      rw [walk_eq, List.map_cons, List.nodup_cons, children_nodeOf]
      refine ⟨fun again => ?_, ih (named.through name) place⟩
      obtain ⟨other, below, same⟩ := List.mem_map.mp again
      obtain ⟨next, rest, parts⟩ := segments_walkAll (named.through name) place below
      rw [same, path_nodeOf, Path.segments_ofSegments place] at parts
      simp at parts
    · rw [List.pairwise_map]
      refine (nodup_eraseDups _).imp_of_mem fun {a b} left right apart => ?_
      intro shared here there
      obtain ⟨node, inA, rfl⟩ := List.mem_map.mp here
      obtain ⟨other, inB, same⟩ := List.mem_map.mp there
      obtain ⟨_, partsA, _⟩ := segments_walk named upper left inA
      obtain ⟨_, partsB, _⟩ := segments_walk named upper right inB
      rw [same, partsA] at partsB
      exact apart (List.cons.inj (List.append_cancel_left partsB)).1

/-- A node and one right under it. -/
def IsChild (tree : Node) (above path : Text) : Prop :=
  ∃ node ∈ tree.walk, node.path = above ∧ ∃ child ∈ node.children, child.path = path

section Build
variable {entries : List (Text × Bool)} {path : Text}

def trailsOf (entries : List (Text × Bool)) : List Trail :=
  entries.map fun (path, isDirectory) => (Path.segments path, isDirectory)

def deepest (entries : List (Text × Bool)) : Nat :=
  ((trailsOf entries).map fun trail => trail.1.length).foldr max 0

theorem mem_trailsOf :
    (parts, isDirectory) ∈ trailsOf entries ↔
      ∃ path, (path, isDirectory) ∈ entries ∧ Path.segments path = parts := by
  simp [trailsOf]

theorem named_trailsOf (entries : List (Text × Bool)) : Named (trailsOf entries) := by
  rintro ⟨parts, isDirectory⟩ member segment inside
  obtain ⟨path, _, rfl⟩ := mem_trailsOf.mp member
  exact Path.segments_valid path segment inside

theorem length_le_foldr {lengths : List Nat} (member : n ∈ lengths) : n ≤ lengths.foldr max 0 := by
  induction lengths with
  | nil => contradiction
  | cons first lengths ih =>
    rw [List.foldr_cons]
    rcases List.mem_cons.mp member with rfl | later
    · exact Nat.le_max_left _ _
    · exact Nat.le_trans (ih later) (Nat.le_max_right _ _)

theorem length_le_deepest (member : (parts, isDirectory) ∈ trailsOf entries) :
    parts.length ≤ deepest entries :=
  length_le_foldr (List.mem_map.mpr ⟨_, member, rfl⟩)

theorem children_build :
    (build entries expanded).children =
      forest expanded (deepest entries) [] (trailsOf entries) := rfl

/-- The node at a place of the tree, where the depth is enough for all that is below. -/
def placed (entries : List (Text × Bool)) (expanded : Text → Bool) (above : List Text)
    (name : Text) : Node :=
  nodeOf expanded (deepest entries - (above.length + 1)) above
    (behind above (trailsOf entries)) name

theorem mem_walkAll_build : node ∈ walkAll (build entries expanded).children ↔
    ∃ above name, name ∈ heads (behind above (trailsOf entries)) ∧
      node = placed entries expanded above name := by
  rw [children_build, mem_walkAll_forest]
  constructor
  · rintro ⟨above, name, _, there, rfl⟩
    exact ⟨above, name, there, rfl⟩
  · rintro ⟨above, name, there, rfl⟩
    obtain ⟨rest, mark, known⟩ := mem_heads_behind.mp there
    have deep := length_le_deepest known
    rw [List.length_append, List.length_cons] at deep
    exact ⟨above, name, by omega, there, rfl⟩

theorem path_placed : (placed entries expanded above name).path =
    Path.ofSegments (above ++ [name]) :=
  path_nodeOf

theorem isFolder_placed : (placed entries expanded above name).isFolder = true ↔
    ∃ rest isDirectory, (above ++ name :: rest, isDirectory) ∈ trailsOf entries ∧
      (rest ≠ [] ∨ isDirectory = true) := by
  simp only [placed, isFolder_nodeOf, mem_behind]

/-- The path of a place, which is made of names. -/
theorem segments_place (there : name ∈ heads (behind above (trailsOf entries))) :
    Path.segments (Path.ofSegments (above ++ [name])) = above ++ [name] := by
  obtain ⟨rest, mark, known⟩ := mem_heads_behind.mp there
  apply Path.segments_ofSegments
  intro segment inside
  refine named_trailsOf entries _ known segment ?_
  rw [List.append_cons]
  exact List.mem_append_left rest inside

/-- The names that lead to a node from the root. -/
def place (node : Node) : List Text :=
  Path.segments node.path

theorem place_placed (there : name ∈ heads (behind above (trailsOf entries))) :
    (placed entries expanded above name).place = above ++ [name] := by
  rw [place, path_placed, segments_place there]

theorem canonical_place (there : name ∈ heads (behind above (trailsOf entries))) :
    Path.Canonical (Path.ofSegments (above ++ [name])) := by
  rw [Path.Canonical, segments_place there]

/-- Below the root, the tree has one node for a path. -/
theorem nodup_build : ((walkAll (build entries expanded).children).map Node.path).Nodup :=
  nodup_walkAll (named_trailsOf entries) (fun _ none => absurd none List.not_mem_nil)

/-- A place of the tree is a path that some entry lies at or under. -/
theorem mem_heads_iff (places : ∀ entry ∈ entries, Path.IsPlace entry.1)
    (canonical : Path.Canonical path)
    (parts : Path.segments path = above ++ [name]) :
    name ∈ heads (behind above (trailsOf entries)) ↔
      ∃ entry ∈ entries, Path.isWithin entry.1 path = true := by
  have some : path ≠ [] := by
    rintro rfl
    simp [Path.segments, Text.cut] at parts
  rw [mem_heads_behind]
  constructor
  · rintro ⟨rest, mark, known⟩
    obtain ⟨key, member, same⟩ := mem_trailsOf.mp known
    have place := places _ member
    refine ⟨_, member,
      (Path.isWithin_iff place.canonical place.some).mpr ⟨canonical, some, rest, ?_⟩⟩
    rw [same, parts, List.append_assoc, List.singleton_append]
  · rintro ⟨⟨key, mark⟩, member, within⟩
    obtain ⟨rest, same⟩ := Path.inside_of_isWithin within
    refine ⟨rest, mark, mem_trailsOf.mpr ⟨key, member, ?_⟩⟩
    rw [same, parts, List.append_assoc, List.singleton_append]

theorem mem_below (places : ∀ entry ∈ entries, Path.IsPlace entry.1) :
    (∃ node ∈ walkAll (build entries expanded).children, node.path = path) ↔
      ∃ entry ∈ entries, Path.isWithin entry.1 path = true := by
  constructor
  · rintro ⟨_, member, rfl⟩
    obtain ⟨above, name, there, rfl⟩ := mem_walkAll_build.mp member
    rw [path_placed]
    exact (mem_heads_iff places (canonical_place there) (segments_place there)).mp there
  · rintro ⟨entry, member, within⟩
    have place := places entry member
    obtain ⟨canonical, some, _, _⟩ := (Path.isWithin_iff place.canonical place.some).mp within
    have parts := Path.segments_basename canonical some
    have there := (mem_heads_iff places canonical parts).mpr ⟨entry, member, within⟩
    refine ⟨_, mem_walkAll_build.mpr ⟨_, _, there, rfl⟩, ?_⟩
    rw [path_placed, ← parts, canonical]

theorem canonical_below (member : node ∈ walkAll (build entries expanded).children) :
    Path.Canonical node.path ∧ node.path ≠ [] := by
  obtain ⟨above, name, there, rfl⟩ := mem_walkAll_build.mp member
  rw [path_placed]
  refine ⟨canonical_place there, fun none => ?_⟩
  have parts := segments_place there
  rw [none] at parts
  simp [Path.segments, Text.cut] at parts

theorem isFolder_place (member : node ∈ walkAll (build entries expanded).children) :
    node.isFolder = true ↔
      (∃ entry ∈ entries, node.place <+: Path.segments entry.1 ∧
        node.place ≠ Path.segments entry.1) ∨
      ∃ entry ∈ entries, entry.2 = true ∧ Path.segments entry.1 = node.place := by
  obtain ⟨above, name, there, rfl⟩ := mem_walkAll_build.mp member
  rw [isFolder_placed, place_placed there]
  constructor
  · rintro ⟨rest, mark, known, more⟩
    obtain ⟨path, entry, whole⟩ := mem_trailsOf.mp known
    rw [List.append_cons] at whole
    by_cases last : rest = []
    · rw [last, List.append_nil] at whole
      exact Or.inr ⟨_, entry, more.resolve_left (not_not_intro last), whole⟩
    · exact Or.inl ⟨_, entry, ⟨rest, whole.symm⟩, fun same => last (by simpa [← same] using whole)⟩
  · rintro (⟨⟨path, mark⟩, entry, ⟨rest, whole⟩, proper⟩ | ⟨⟨path, mark⟩, entry, marked, whole⟩)
    · have known : Path.segments path = above ++ name :: rest := by
        rw [← whole, List.append_cons above name rest]
      refine ⟨rest, mark, mem_trailsOf.mpr ⟨path, entry, known⟩, Or.inl ?_⟩
      rintro rfl
      exact proper (by rw [← whole, List.append_nil])
    · exact ⟨[], mark, mem_trailsOf.mpr ⟨path, entry, whole⟩, Or.inr marked⟩

theorem isFolder_below (places : ∀ entry ∈ entries, Path.IsPlace entry.1)
    (member : node ∈ walkAll (build entries expanded).children) :
    node.isFolder = true ↔
      ∃ entry ∈ entries, Path.isAncestor node.path entry.1 = true ∨ entry = (node.path, true) := by
  obtain ⟨canonical, some⟩ := canonical_below member
  rw [isFolder_place member]
  constructor
  · rintro (⟨entry, known, ⟨rest, whole⟩, proper⟩ | ⟨entry, known, marked, same⟩)
    · have more : rest ≠ [] := by
        rintro rfl
        exact proper (by rw [← whole, List.append_nil])
      exact ⟨entry, known, Or.inl ((Path.isAncestor_iff (places entry known).canonical).mpr
        ⟨canonical, some, rest, more, whole.symm⟩)⟩
    · exact ⟨entry, known, Or.inr
        (Prod.ext (Path.canonical_unique (places entry known).canonical canonical same) marked)⟩
  · rintro ⟨entry, known, below | rfl⟩
    · obtain ⟨_, _, rest, more, same⟩ :=
        (Path.isAncestor_iff (places entry known).canonical).mp below
      refine Or.inl ⟨entry, known, ⟨rest, same.symm⟩, fun equal => more ?_⟩
      rw [← equal, place] at same
      exact List.self_eq_append_right.mp same
    · exact Or.inr ⟨_, known, rfl, rfl⟩

theorem isExpanded_below (member : node ∈ walkAll (build entries expanded).children) :
    node.isExpanded = (node.isFolder && expanded node.path) := by
  obtain ⟨above, name, there, rfl⟩ := mem_walkAll_build.mp member
  rw [placed, isExpanded_nodeOf, path_nodeOf]

/-- The nodes right under a place. -/
theorem mem_inside_placed (above : List Text) :
    node ∈ forest expanded (deepest entries - above.length) above
        (behind above (trailsOf entries)) ↔
      ∃ name ∈ heads (behind above (trailsOf entries)),
        node = placed entries expanded above name := by
  constructor
  · intro member
    cases depth : deepest entries - above.length with
    | zero =>
      rw [depth] at member
      contradiction
    | succ depth =>
      rw [depth] at member
      obtain ⟨name, there, rfl⟩ := mem_forest.mp member
      refine ⟨name, there, ?_⟩
      rw [placed, ← Nat.sub_sub, depth, Nat.add_sub_cancel]
  · rintro ⟨name, there, rfl⟩
    obtain ⟨rest, mark, known⟩ := mem_heads_behind.mp there
    have deep := length_le_deepest known
    rw [List.length_append, List.length_cons] at deep
    obtain ⟨depth, same⟩ : ∃ depth, deepest entries - above.length = depth + 1 :=
      ⟨deepest entries - above.length - 1, by omega⟩
    rw [placed, ← Nat.sub_sub, same, Nat.add_sub_cancel]
    exact mem_forest.mpr ⟨name, there, rfl⟩

theorem mem_inside (above : List Text) :
    (∃ node ∈ forest expanded (deepest entries - above.length) above
        (behind above (trailsOf entries)),
      node.path = path) ↔
      ∃ name ∈ heads (behind above (trailsOf entries)),
        Path.ofSegments (above ++ [name]) = path := by
  simp only [mem_inside_placed]
  constructor
  · rintro ⟨_, ⟨name, there, rfl⟩, rfl⟩
    exact ⟨name, there, path_placed.symm⟩
  · rintro ⟨name, there, rfl⟩
    exact ⟨_, ⟨name, there, rfl⟩, path_placed⟩

theorem children_placed : (placed entries expanded above name).children =
    forest expanded (deepest entries - (above ++ [name]).length) (above ++ [name])
      (behind (above ++ [name]) (trailsOf entries)) := by
  rw [placed, children_nodeOf, behind_concat, List.length_append, List.length_singleton]

/-- Each node but the root is right under the node of the folder that its path names. -/
theorem isChild_build (places : ∀ entry ∈ entries, Path.IsPlace entry.1) :
    (build entries expanded).IsChild upper path ↔
      upper = Path.parent path ∧ ∃ entry ∈ entries, Path.isWithin entry.1 path = true := by
  have known : ∀ {place name}, name ∈ heads (behind place (trailsOf entries)) →
      Path.ofSegments place = Path.parent (Path.ofSegments (place ++ [name])) ∧
        ∃ entry ∈ entries, Path.isWithin entry.1 (Path.ofSegments (place ++ [name])) = true := by
    intro place name there
    have parts := segments_place there
    exact ⟨by rw [Path.parent, parts, List.dropLast_concat],
      (mem_heads_iff places (canonical_place there) parts).mp there⟩
  constructor
  · rintro ⟨node, member, rfl, child⟩
    rcases mem_walk.mp member with rfl | below
    · obtain ⟨name, there, rfl⟩ := (mem_inside []).mp child
      exact known there
    · obtain ⟨above, last, _, rfl⟩ := mem_walkAll_build.mp below
      rw [children_placed] at child
      obtain ⟨name, there, rfl⟩ := (mem_inside _).mp child
      rw [path_placed]
      exact known there
  · rintro ⟨rfl, entry, member, within⟩
    have place := places entry member
    obtain ⟨canonical, some, _, _⟩ := (Path.isWithin_iff place.canonical place.some).mp within
    have parts := Path.segments_basename canonical some
    have there := (mem_heads_iff places canonical parts).mpr ⟨entry, member, within⟩
    have last : Path.ofSegments ((Path.segments path).dropLast ++ [Path.basename path]) = path := by
      rw [← parts, canonical]
    -- The place above is the root, or that of a node through which the trail goes.
    rcases List.eq_nil_or_concat (Path.segments path).dropLast with root | ⟨above, name, same⟩
    · rw [Path.parent, root]
      rw [root] at there last
      exact ⟨_, mem_walk.mpr (Or.inl rfl), rfl, (mem_inside []).mpr ⟨_, there, last⟩⟩
    · rw [List.concat_eq_append] at same
      rw [Path.parent, same]
      rw [same] at there last
      obtain ⟨rest, mark, known⟩ := mem_heads_behind.mp there
      rw [List.append_assoc, List.singleton_append] at known
      have upper : name ∈ heads (behind above (trailsOf entries)) :=
        mem_heads_behind.mpr ⟨_, mark, known⟩
      refine ⟨_, mem_walk.mpr (Or.inr (mem_walkAll_build.mpr ⟨above, name, upper, rfl⟩)),
        path_placed, ?_⟩
      rw [children_placed]
      exact (mem_inside _).mpr ⟨_, there, last⟩

end Build

end LabEditor.Node
