import LabEditor.Proofs.Path.Lineage
import LabEditor.Proofs.Text.Trimming
import Mathlib.Algebra.Order.BigOperators.Group.List
import Mathlib.Algebra.Order.Group.Nat

/-! The paths that normalizing leaves as they are. White space inside of a path, and a backslash that
has not been typed with it, stay there until the path is normalized again. -/
namespace LabEditor

namespace Text
variable {t : Text} {p : CodePoint → Bool}

/-- A text that begins with a visible character, if it has any. -/
def Opens (t : Text) : Prop :=
  ∀ c ∈ t.head?, isBlank c = false

/-- A text that ends with a visible character, if it has any. -/
def Closes (t : Text) : Prop :=
  ∀ c ∈ t.getLast?, isBlank c = false

theorem trimStart_eq_self_iff : trimStart t = t ↔ Opens t := by
  cases t with
  | nil => simp [trimStart, Opens]
  | cons c t =>
    simp only [Opens, List.head?_cons, Option.mem_some_iff, forall_eq']
    exact ⟨visible_of_trimStart, fun visible => trimStart_cons visible t⟩

theorem dropEndWhile_eq_self_iff : dropEndWhile p t = t ↔ ∀ c ∈ t.getLast?, p c = false := by
  rcases List.eq_nil_or_concat t with rfl | ⟨front, last, rfl⟩
  · simp [dropEndWhile]
  · simp only [List.concat_eq_append, List.getLast?_concat, Option.mem_some_iff, forall_eq']
    refine ⟨fun same => ?_, dropEndWhile_self⟩
    rw [Bool.eq_false_iff]
    intro gone
    have all : ∀ c ∈ [last], p c = true := by simpa using gone
    have short := (dropEndWhile_isPrefix p front).length_le
    rw [← dropEndWhile_append_all all, same, List.length_append, List.length_singleton] at short
    exact Nat.not_succ_le_self _ short

theorem trimEnd_eq_self_iff : trimEnd t = t ↔ Closes t :=
  dropEndWhile_eq_self_iff

theorem dropEndWhile_idempotent (p : CodePoint → Bool) (t : Text) :
    dropEndWhile p (dropEndWhile p t) = dropEndWhile p t := by
  induction t with
  | nil => rfl
  | cons c t ih =>
    rw [dropEndWhile]
    split
    · split
      · rfl
      · rename_i stays
        simp [dropEndWhile, stays]
    · rename_i some
      rw [dropEndWhile, ih]
      split
      · contradiction
      · rfl

theorem trim_eq_self_iff : trim t = t ↔ Opens t ∧ Closes t := by
  rw [← trimStart_eq_self_iff, ← trimEnd_eq_self_iff]
  constructor
  · intro same
    have start : trimStart t = t := by
      refine (trimStart_suffix t).eq_of_length_le ?_
      calc t.length = (trim t).length := by rw [same]
        _ ≤ (trimStart t).length := (dropEndWhile_isPrefix isBlank _).length_le
    refine ⟨start, ?_⟩
    rwa [trim, start] at same
  · rintro ⟨start, stays⟩
    rw [trim, start]
    exact stays

theorem trim_closed (t : Text) : Opens (trim t) ∧ Closes (trim t) := by
  constructor
  · intro c first
    obtain ⟨rest, same⟩ := dropEndWhile_isPrefix isBlank (trimStart t)
    cases kept : trim t with
    | nil => simp [kept] at first
    | cons d front =>
      rw [kept] at first
      cases first
      rw [← trimEnd, ← trim, kept, List.cons_append] at same
      exact visible_of_trimStart same.symm
  · exact trimEnd_eq_self_iff.mp (dropEndWhile_idempotent isBlank _)

end Text

namespace Path
variable {path old new folder name rest : Text}

/-- What is kept as it is when it is typed: no backslash, and no white space at the ends. -/
structure Neat (path : Text) : Prop where
  slashes : ('\\' : CodePoint) ∉ path
  opens : Text.Opens path
  closes : Text.Closes path

theorem length_ofSegments_le (t : Text) : (ofSegments (segments t)).length ≤ t.length := by
  by_cases none : segments t = []
  · rw [none]
    exact Nat.zero_le _
  · have kept : ((segments t).map fun w => w.length + 1).sum ≤
        ((Text.cut separator t).map fun w => w.length + 1).sum :=
      (List.filter_sublist.map _).sum_le_sum fun _ _ => Nat.zero_le _
    have short := Text.length_glue separator none
    have whole := Text.length_glue separator (Text.cut_ne_nil separator t)
    rw [Text.glue_cut] at whole
    rw [ofSegments]
    omega

/-- A backslash separates what is typed, so none is left. -/
theorem slashes_normalize (typed : Text) : ('\\' : CodePoint) ∉ normalize typed := by
  intro inside
  rw [normalize] at inside
  split at inside
  · exact absurd inside List.not_mem_nil
  · rcases Text.mem_of_mem_glue inside with same | ⟨part, known, inside⟩
    · exact absurd same (by decide)
    · have typed := Text.mem_of_mem_trim (Text.mem_of_mem_cut (List.mem_filter.mp known).1 inside)
      obtain ⟨c, _, same⟩ := List.mem_map.mp typed
      split at same
      · exact absurd same (by decide)
      · rename_i apart
        exact apart same

theorem normalize_eq_self_iff (place : IsPlace path) : normalize path = path ↔ Neat path := by
  have read (slashes : ('\\' : CodePoint) ∉ path) : normalize path = if (segments (Text.trim path)).any isDots
      then [] else ofSegments (segments (Text.trim path)) := by
    have same : path.map (fun (c : CodePoint) => if c = '\\' then separator else c) = path := by
      refine (List.map_congr_left fun c inside => ?_).trans (List.map_id path)
      have apart : c ≠ '\\' := fun equal => slashes (equal ▸ inside)
      exact if_neg apart
    rw [normalize, same]
  constructor
  · intro same
    have slashes : ('\\' : CodePoint) ∉ path := same ▸ slashes_normalize path
    rw [read slashes] at same
    have kept : Text.trim path = path := by
      refine (Text.trim_sublist path).eq_of_length_le ?_
      split at same
      · exact absurd same.symm place.some
      · calc path.length = (ofSegments (segments (Text.trim path))).length := by rw [same]
          _ ≤ (Text.trim path).length := length_ofSegments_le _
    obtain ⟨opens, closes⟩ := Text.trim_eq_self_iff.mp kept
    exact ⟨slashes, opens, closes⟩
  · rintro ⟨slashes, opens, closes⟩
    rw [read slashes, Text.trim_eq_self_iff.mpr ⟨opens, closes⟩, if_neg, place.canonical]
    simpa only [List.any_eq_true, not_exists, not_and, Bool.not_eq_true] using place.plain

/-- Only white space that comes to the ends is read in another way the second time. -/
theorem normalize_normalize_iff (place : IsPlace (normalize typed)) :
    normalize (normalize typed) = normalize typed ↔
      Text.trim (normalize typed) = normalize typed := by
  rw [normalize_eq_self_iff place, Text.trim_eq_self_iff]
  exact ⟨fun neat => ⟨neat.opens, neat.closes⟩,
    fun ends => ⟨slashes_normalize typed, ends.1, ends.2⟩⟩

theorem neat_append_iff (left : folder ≠ []) (right : name ≠ []) :
    Neat (folder ++ separator :: name) ↔
      (('\\' : CodePoint) ∉ folder ∧ ('\\' : CodePoint) ∉ name) ∧ Text.Opens folder ∧ Text.Closes name := by
  have slashes : ('\\' : CodePoint) ∉ folder ++ separator :: name ↔
      ('\\' : CodePoint) ∉ folder ∧ ('\\' : CodePoint) ∉ name := by
    have other : '\\' ≠ separator := by decide
    simp [other]
  have opens : Text.Opens (folder ++ separator :: name) ↔ Text.Opens folder := by
    rw [Text.Opens, List.head?_append_of_ne_nil _ left, Text.Opens]
  have closes : Text.Closes (folder ++ separator :: name) ↔ Text.Closes name := by
    rw [← List.singleton_append, ← List.append_assoc, Text.Closes,
      List.getLast?_append_of_ne_nil _ right, Text.Closes]
  rw [← slashes, ← opens, ← closes]
  exact ⟨fun neat => ⟨neat.slashes, neat.opens, neat.closes⟩, fun all => ⟨all.1, all.2.1, all.2.2⟩⟩

theorem join_child (canonical : Canonical folder) (some : folder ≠ []) (valid : IsSegment name) :
    join [folder, name] = folder ++ separator :: name := by
  have parts : segments folder ≠ [] := (segments_eq_nil canonical).not.mpr some
  rw [join, List.flatMap_cons, List.flatMap_singleton, segments_segment valid,
    ofSegments_append parts (List.cons_ne_nil _ _), canonical]
  rfl

theorem join_root (valid : IsSegment name) : join [[], name] = name := by
  rw [join, List.flatMap_cons, List.flatMap_singleton, segments_segment valid]
  rfl

/-- In the root a name is the path, in another folder it is only the end of it. -/
theorem neat_child_iff (canonical : Canonical folder) (valid : IsSegment name) :
    Neat (join [folder, name]) ↔ (('\\' : CodePoint) ∉ folder ∧ ('\\' : CodePoint) ∉ name) ∧
      Text.Opens (if folder = [] then name else folder) ∧ Text.Closes name := by
  by_cases root : folder = []
  · rw [if_pos root, root, join_root valid]
    exact ⟨fun neat => ⟨⟨List.not_mem_nil, neat.slashes⟩, neat.opens, neat.closes⟩,
      fun all => ⟨all.1.2, all.2.1, all.2.2⟩⟩
  · rw [if_neg root, join_child canonical root valid, neat_append_iff root valid.1]

/-- What a folder takes along ends as it did, and begins as the folder does. -/
theorem Neat.rebase (neat : Neat path) (place : IsPlace path) (target : Neat new)
    (canonical : IsPlace new) (within : isWithin path old = true) : Neat (rebase path old new) := by
  rcases isWithin_iff_or.mp within with rfl | under
  · rwa [rebase_self canonical.canonical]
  · obtain ⟨above, some, parts, more, same⟩ := (isAncestor_iff place.canonical).mp under
    have old_parts : segments old ≠ [] := (segments_eq_nil above).not.mpr some
    have valid : ∀ segment ∈ parts, IsSegment segment := fun segment member =>
      segments_valid path segment (same ▸ List.mem_append_right _ member)
    have below : ofSegments parts ≠ [] := by
      rw [Ne, ← segments_eq_nil (canonical_ofSegments valid), segments_ofSegments valid]
      exact more
    rw [← place.canonical, same, ofSegments_append old_parts more, above,
      neat_append_iff some below] at neat
    rw [rebase_eq same, ofSegments_append canonical.segments_ne_nil more, canonical.canonical,
      neat_append_iff canonical.some below]
    exact ⟨⟨target.slashes, neat.1.2⟩, target.opens, neat.2.2⟩

theorem Neat.relocated (neat : Neat path) (place : IsPlace path) (target : Neat new)
    (canonical : IsPlace new) : Neat (relocated old new path) := by
  cases within : isWithin path old with
  | true => exact relocated_within within ▸ neat.rebase place target canonical within
  | false => exact (relocated_outside within).symm ▸ neat

/-- A renamed path ends with its new name, and begins with it only in the root. -/
theorem neat_rename_iff (neat : Neat path) (place : IsPlace path)
    (valid : IsSegment (Text.trim name)) :
    Neat (join [parent path, Text.trim name]) ↔ ('\\' : CodePoint) ∉ Text.trim name := by
  have known := (join_parent_basename place.canonical place.some).symm ▸ neat
  obtain ⟨⟨slashes, _⟩, opens, _⟩ := (neat_child_iff (canonical_parent path)
    (basename_valid place.canonical place.some)).mp known
  obtain ⟨front, back⟩ := Text.trim_closed name
  rw [neat_child_iff (canonical_parent path) valid]
  refine ⟨fun all => all.1.2, fun free => ⟨⟨slashes, free⟩, ?_, back⟩⟩
  split
  · exact front
  · rename_i some
    rwa [if_neg some] at opens

/-- A path that comes to the root begins with its name, which began with what was above it. -/
theorem neat_move_iff (neat : Neat path) (place : IsPlace path) (above : folder ≠ [] → Neat folder)
    (canonical : Canonical folder) :
    Neat (join [folder, basename path]) ↔ (folder = [] → Text.Opens (basename path)) := by
  have valid := basename_valid place.canonical place.some
  have known := (join_parent_basename place.canonical place.some).symm ▸ neat
  obtain ⟨⟨_, free⟩, _, closes⟩ := (neat_child_iff (canonical_parent path) valid).mp known
  rw [neat_child_iff canonical valid]
  constructor
  · rintro ⟨_, opens, _⟩ root
    rwa [if_pos root] at opens
  · intro root
    by_cases none : folder = []
    · rw [if_pos none, none]
      exact ⟨⟨List.not_mem_nil, free⟩, root none, closes⟩
    · rw [if_neg none]
      exact ⟨⟨(above none).slashes, free⟩, (above none).opens, closes⟩

end Path
end LabEditor
