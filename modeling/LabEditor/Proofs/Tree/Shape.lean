import LabEditor.Proofs.Tree.Nodes
import LabEditor.Tree.Expansion

/-! The shape of the tree as a whole: where its nodes are, in which order they come, and that nothing
counts of a list of entries but which entries are in it. -/
namespace LabEditor.Node
variable {trails others : List Trail} {expanded : Text → Bool} {depth : Nat} {above parts : List Text}
  {name : Text} {node child top : Node} {tops nodes more : List Node} {entries : List (Text × Bool)}

theorem before_iff (a b : Node) : before a b = true ↔
    a.isFolder = true ∧ b.isFolder = false ∨
      a.isFolder = b.isFolder ∧ Text.le a.name b.name = true := by
  cases kindA : a.isFolder <;> cases kindB : b.isFolder <;> simp [before, kindA, kindB]

theorem before_total (a b : Node) : before a b = true ∨ before b a = true := by
  simp only [before_iff]
  cases a.isFolder <;> cases b.isFolder <;> simp [Text.le_total]

theorem before_trans (a b c : Node) (first : before a b = true) (second : before b c = true) :
    before a c = true := by
  rw [before_iff] at first second ⊢
  rcases first with ⟨folder, file⟩ | ⟨same, order⟩
  · rcases second with ⟨other, _⟩ | ⟨like, _⟩
    · exact absurd (file.symm.trans other) Bool.false_ne_true
    · exact Or.inl ⟨folder, like ▸ file⟩
  · rcases second with ⟨folder, file⟩ | ⟨like, next⟩
    · exact Or.inl ⟨same.trans folder, file⟩
    · exact Or.inr ⟨same.trans like, Text.le_trans _ _ _ order next⟩

theorem name_of_before (first : before node child = true) (second : before child node = true) :
    node.name = child.name := by
  rw [before_iff] at first second
  rcases first with ⟨folder, file⟩ | ⟨same, order⟩
  · rcases second with ⟨other, _⟩ | ⟨like, _⟩
    · exact absurd (file.symm.trans other) Bool.false_ne_true
    · exact absurd (file.symm.trans (like.trans folder)) Bool.false_ne_true
  · rcases second with ⟨folder, file⟩ | ⟨_, next⟩
    · exact absurd (file.symm.trans (same.trans folder)) Bool.false_ne_true
    · exact Text.le_antisymm _ _ order next

theorem sorted_forest (expanded : Text → Bool) (depth : Nat) (above : List Text)
    (trails : List Trail) :
    (forest expanded depth above trails).Pairwise fun a b => before a b = true := by
  cases depth with
  | zero => exact List.Pairwise.nil
  | succ depth => exact Order.pairwise_sortBy before_total before_trans _

theorem perm_heads (same : ∀ trail, trail ∈ others ↔ trail ∈ trails) :
    (heads others).Perm (heads trails) := by
  refine perm_eraseDups fun name => ?_
  simp only [List.mem_filterMap, same]

theorem mem_through_congr (same : ∀ trail, trail ∈ others ↔ trail ∈ trails) (name : Text)
    (trail : Trail) : trail ∈ through name others ↔ trail ∈ through name trails := by
  obtain ⟨rest, isDirectory⟩ := trail
  rw [mem_through, mem_through, same]

theorem any_congr {p : Trail → Bool} (same : ∀ trail, trail ∈ others ↔ trail ∈ trails) :
    others.any p = trails.any p := by
  rw [Bool.eq_iff_iff, List.any_eq_true, List.any_eq_true]
  simp only [same]

theorem nodeOf_congr (same : ∀ trail, trail ∈ others ↔ trail ∈ trails)
    (below : forest expanded depth (above ++ [name]) (through name others) =
      forest expanded depth (above ++ [name]) (through name trails)) :
    nodeOf expanded depth above others name = nodeOf expanded depth above trails name := by
  rw [nodeOf, nodeOf, any_congr (mem_through_congr same name), below]

/-- The nodes under a folder depend on the trails that go there, and neither on their order nor on
how often one is given. -/
theorem forest_congr (same : ∀ trail, trail ∈ others ↔ trail ∈ trails) :
    forest expanded depth above others = forest expanded depth above trails := by
  induction depth generalizing above trails others with
  | zero => rfl
  | succ depth ih =>
    have alike : nodeOf expanded depth above others = nodeOf expanded depth above trails :=
      funext fun name => nodeOf_congr same (ih (mem_through_congr same name))
    have perm : ((heads others).map (nodeOf expanded depth above others)).Perm
        ((heads trails).map (nodeOf expanded depth above trails)) := by
      rw [alike]
      exact (perm_heads same).map _
    rw [forest_succ, forest_succ]
    refine Order.sortBy_perm before_total before_trans ?_ perm
    intro a first b second left right
    obtain ⟨x, _, rfl⟩ := List.mem_map.mp first
    obtain ⟨y, _, rfl⟩ := List.mem_map.mp second
    have names := name_of_before left right
    rw [name_nodeOf, name_nodeOf] at names
    rw [names]

theorem foldr_max_le {lengths : List Nat} (bounded : ∀ n ∈ lengths, n ≤ bound) :
    lengths.foldr max 0 ≤ bound := by
  induction lengths with
  | nil => exact Nat.zero_le _
  | cons first lengths ih =>
    exact Nat.max_le.mpr ⟨bounded _ List.mem_cons_self,
      ih fun n member => bounded n (List.mem_cons_of_mem _ member)⟩

theorem deepest_le {others : List (Text × Bool)} (inside : ∀ entry ∈ others, entry ∈ entries) :
    deepest others ≤ deepest entries := by
  refine foldr_max_le fun n member => ?_
  obtain ⟨⟨parts, mark⟩, there, rfl⟩ := List.mem_map.mp member
  obtain ⟨path, known, rfl⟩ := mem_trailsOf.mp there
  exact length_le_deepest (mem_trailsOf.mpr ⟨path, inside _ known, rfl⟩)

/-- The tree of the same entries in another order, or given another number of times, is the same. -/
theorem build_congr {others : List (Text × Bool)} (same : ∀ entry, entry ∈ others ↔ entry ∈ entries) :
    build others expanded = build entries expanded := by
  have depth : deepest others = deepest entries :=
    Nat.le_antisymm (deepest_le fun entry => (same entry).mp) (deepest_le fun entry => (same entry).mpr)
  have trails : ∀ trail, trail ∈ trailsOf others ↔ trail ∈ trailsOf entries := by
    rintro ⟨parts, mark⟩
    simp only [mem_trailsOf, same]
  change folder [] [] true (forest expanded (deepest others) [] (trailsOf others)) =
    folder [] [] true (forest expanded (deepest entries) [] (trailsOf entries))
  rw [depth, forest_congr trails]

/-- Each node of a walk is one of those given, or a child of a node that is walked over before it. -/
def Led (tops nodes : List Node) : Prop :=
  ∀ earlier node later, nodes = earlier ++ node :: later →
    node ∈ tops ∨ ∃ above ∈ earlier, node ∈ above.children

theorem Led.nil : Led tops [] := fun earlier node later none =>
  absurd none.symm (List.append_ne_nil_of_right_ne_nil earlier (List.cons_ne_nil node later))

theorem Led.cons (led : Led top.children nodes) : Led [top] (top :: nodes) := by
  intro earlier node later whole
  cases earlier with
  | nil => exact Or.inl (by simp [(List.cons.inj whole).1])
  | cons first earlier =>
    obtain ⟨rfl, rest⟩ := List.cons.inj whole
    rcases led earlier node later rest with child | ⟨above, member, child⟩
    · exact Or.inr ⟨top, List.mem_cons_self, child⟩
    · exact Or.inr ⟨above, List.mem_cons_of_mem top member, child⟩

theorem Led.append {others : List Node} (led : Led tops nodes) (next : Led others more) :
    Led (tops ++ others) (nodes ++ more) := by
  intro earlier node later whole
  rcases List.append_eq_append_iff.mp whole with ⟨front, rfl, rest⟩ | ⟨back, rfl, rest⟩
  · rcases next front node later rest with given | ⟨above, member, child⟩
    · exact Or.inl (List.mem_append_right _ given)
    · exact Or.inr ⟨above, List.mem_append_right _ member, child⟩
  · cases back with
    | nil =>
      rcases next [] node later rest.symm with given | ⟨_, none, _⟩
      · exact Or.inl (List.mem_append_right _ given)
      · contradiction
    | cons first back =>
      obtain ⟨rfl, _⟩ := List.cons.inj rest
      exact (led earlier node back rfl).imp_left (List.mem_append_left _)

theorem led_walkAll (nodes : List Node) : Led nodes (walkAll nodes) := by
  refine Node.rec_1 (motive_1 := fun top => Led top.children (walkAll top.children))
    (motive_2 := fun nodes => Led nodes (walkAll nodes)) ?_ ?_ ?_ ?_ nodes
  · exact fun _ _ => Led.nil
  · exact fun _ _ _ _ below => below
  · exact Led.nil
  · intro top nodes below rest
    rw [walkAll, walk_eq]
    exact below.cons.append rest

/-- The root is the node at no names, and every node has under it what stands under its place. -/
theorem children_walk (member : node ∈ (build entries expanded).walk) :
    node.children = forest expanded (deepest entries - node.place.length) node.place
      (behind node.place (trailsOf entries)) := by
  rcases mem_walk.mp member with rfl | below
  · exact children_build
  · obtain ⟨above, name, there, rfl⟩ := mem_walkAll_build.mp below
    rw [place_placed there, children_placed]

theorem sorted_children (member : node ∈ (build entries expanded).walk) :
    node.children.Pairwise fun a b => before a b = true := by
  rw [children_walk member]
  exact sorted_forest _ _ _ _

theorem place_child (member : node ∈ (build entries expanded).walk) (inside : child ∈ node.children) :
    child.place.dropLast = node.place := by
  rw [children_walk member] at inside
  obtain ⟨name, there, rfl⟩ := (mem_inside_placed _).mp inside
  rw [place_placed there, List.dropLast_concat]

theorem exists_place_iff :
    (∃ node ∈ walkAll (build entries expanded).children, node.place = parts) ↔
      parts ≠ [] ∧ ∃ entry ∈ entries, parts <+: Path.segments entry.1 := by
  constructor
  · rintro ⟨_, member, rfl⟩
    obtain ⟨above, name, there, rfl⟩ := mem_walkAll_build.mp member
    obtain ⟨rest, mark, known⟩ := mem_heads_behind.mp there
    obtain ⟨path, entry, whole⟩ := mem_trailsOf.mp known
    rw [place_placed there]
    exact ⟨List.concat_ne_nil _ _, _, entry, rest, by rw [whole, List.append_cons above name rest]⟩
  · rintro ⟨some, ⟨path, mark⟩, entry, rest, whole⟩
    rcases List.eq_nil_or_concat parts with none | ⟨above, name, rfl⟩
    · exact absurd none some
    · rw [List.concat_eq_append] at whole ⊢
      have there : name ∈ heads (behind above (trailsOf entries)) :=
        mem_heads_behind.mpr ⟨rest, mark, mem_trailsOf.mpr ⟨path, entry, by
          rw [← whole, List.append_cons above name rest]⟩⟩
      refine ⟨_, mem_walkAll_build.mpr ⟨above, name, there, rfl⟩, ?_⟩
      rw [place_placed there]

theorem path_place (member : node ∈ walkAll (build entries expanded).children) :
    node.path = Path.ofSegments node.place :=
  (canonical_below member).1.symm

theorem name_place (member : node ∈ walkAll (build entries expanded).children) :
    node.place.getLast? = some node.name := by
  obtain ⟨above, name, there, rfl⟩ := mem_walkAll_build.mp member
  rw [place_placed there, List.getLast?_concat, placed, name_nodeOf]

theorem nodup_places :
    ((walkAll (build entries expanded).children).map place).Nodup := by
  have paths : ((walkAll (build entries expanded).children).map place).map Path.ofSegments =
      (walkAll (build entries expanded).children).map path := by
    rw [List.map_map]
    exact List.map_congr_left fun node member => (path_place member).symm
  exact List.Nodup.of_map _ (paths ▸ nodup_build)

/-- The tree of a list of entries below its root, in the order in which it is walked over: a node at
each place that an entry lies at or under, once and behind the node above it. -/
theorem build_shape (entries : List (Text × Bool)) (expansion : Expansion) :
    let tree := build entries expansion.isExpanded
    ∃ below, tree.walk = tree :: below ∧
      (∀ parts, (∃ node ∈ below, node.place = parts) ↔
        parts ≠ [] ∧ ∃ entry ∈ entries, parts <+: Path.segments entry.1) ∧
      (below.map place).Nodup ∧
      (∀ earlier node later, below = earlier ++ node :: later →
        ∃ above ∈ tree :: earlier, node ∈ above.children ∧ above.place = node.place.dropLast) ∧
      (∀ node ∈ below,
        node.path = Path.ofSegments node.place ∧ node.place.getLast? = some node.name ∧
        (node.isFolder = true ↔
          (∃ entry ∈ entries, node.place <+: Path.segments entry.1 ∧
            node.place ≠ Path.segments entry.1) ∨
          ∃ entry ∈ entries, entry.2 = true ∧ Path.segments entry.1 = node.place) ∧
        (node.isFolder = true →
          node.isExpanded = (expansion.table.get? node.path).getD false)) ∧
      (∀ node ∈ tree :: below, node.children.Pairwise fun a b =>
        a.isFolder = true ∧ b.isFolder = false ∨
          a.isFolder = b.isFolder ∧ Text.le a.name b.name = true) ∧
      ∀ others, others.Perm entries →
        (build others expansion.isExpanded).toJson = tree.toJson := by
  intro tree
  have walk : tree.walk = tree :: walkAll tree.children := walk_eq tree
  refine ⟨walkAll tree.children, walk, fun parts => exists_place_iff, nodup_places, ?_, ?_, ?_, ?_⟩
  · intro earlier node later whole
    have known (above : Node) (before : above ∈ tree :: earlier) : above ∈ tree.walk := by
      rw [walk, whole]
      exact List.mem_cons.mpr ((List.mem_cons.mp before).imp_right (List.mem_append_left _))
    obtain ⟨above, before, child⟩ : ∃ above ∈ tree :: earlier, node ∈ above.children := by
      rcases led_walkAll tree.children earlier node later whole with given | ⟨above, before, child⟩
      · exact ⟨tree, List.mem_cons_self, given⟩
      · exact ⟨above, List.mem_cons_of_mem tree before, child⟩
    exact ⟨above, before, child, (place_child (known above before) child).symm⟩
  · intro node member
    refine ⟨path_place member, name_place member, isFolder_place member, fun folder => ?_⟩
    rw [isExpanded_below member, folder, Bool.true_and, Expansion.isExpanded]
  · intro node member
    exact (sorted_children (walk ▸ member)).imp (before_iff _ _).mp
  · intro others perm
    rw [build_congr fun entry => perm.mem_iff]

theorem build_shape_docs :
    let entries : List (Text × Bool) := [("a/b.md", false), ("a", false), ("/a//b.md", false)]
    let places : List (List Text) := [["a"], ["a", "b.md"]]
    let tree := build entries (Expansion.isExpanded ⟨[("a", true)], 0⟩)
    ∃ below, tree.walk = tree :: below ∧ below.map place = places ∧
      (below.map place).Nodup ∧
      (∀ node ∈ below, node.isFolder = true →
        node.isExpanded = (Table.get? [("a", true)] node.path).getD false) ∧
      (build entries.reverse (Expansion.isExpanded ⟨[("a", true)], 0⟩)).toJson = tree.toJson := by
  intro entries places tree
  obtain ⟨below, walk, _, once, _, nodes, _, same⟩ := build_shape entries ⟨[("a", true)], 0⟩
  have whole : tree.walk.map place = [] :: below.map place := by
    rw [walk]
    rfl
  have found : tree.walk.map place = [] :: places := by decide
  refine ⟨below, walk, (List.cons.inj (whole.symm.trans found)).2, once, ?_,
    same _ (List.reverse_perm entries)⟩
  intro node member folder
  exact (nodes node member).2.2.2 folder

end LabEditor.Node
