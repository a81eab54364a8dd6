import LabEditor.Path.Basic
import LabEditor.Proofs.Text.Splitting

/-! A path stands for its segments. The paths of records are canonical: they are made of their
segments and nothing else, so that the lists of segments and the paths determine each other. -/
namespace LabEditor.Path
variable {p q path name segment : Text} {parts : List Text}

/-- What can stand between two separators. -/
def IsSegment (segment : Text) : Prop :=
  segment ≠ [] ∧ separator ∉ segment

/-- A path without empty segments, which would be lost. -/
def Canonical (path : Text) : Prop :=
  ofSegments (segments path) = path

theorem segments_valid (path : Text) : ∀ segment ∈ segments path, IsSegment segment := by
  intro segment member
  obtain ⟨piece, some⟩ := List.mem_filter.mp member
  exact ⟨by simpa using some, Text.cut_free piece⟩

theorem segments_ofSegments (valid : ∀ segment ∈ parts, IsSegment segment) :
    segments (ofSegments parts) = parts := by
  cases parts with
  | nil => rfl
  | cons part parts =>
    rw [segments, ofSegments, Text.cut_glue (fun w member => (valid w member).2) (by simp)]
    exact List.filter_eq_self.mpr fun w member => by simpa using (valid w member).1

theorem canonical_ofSegments (valid : ∀ segment ∈ parts, IsSegment segment) :
    Canonical (ofSegments parts) := by
  rw [Canonical, segments_ofSegments valid]

theorem canonical_unique (left : Canonical p) (right : Canonical q)
    (same : segments p = segments q) : p = q := by
  rw [← left, ← right, same]

theorem canonical_nil : Canonical [] := rfl

theorem segments_eq_nil (canonical : Canonical path) : segments path = [] ↔ path = [] := by
  constructor
  · intro none
    rw [← canonical, none]
    rfl
  · rintro rfl
    rfl

/-- A canonical path other than the root, whatever its segments are. -/
structure IsKey (path : Text) : Prop where
  some : path ≠ []
  canonical : Canonical path

theorem IsKey.segments_ne_nil (key : IsKey path) : segments path ≠ [] :=
  (segments_eq_nil key.canonical).not.mpr key.some

theorem isKey_ofSegments (some : parts ≠ []) (valid : ∀ segment ∈ parts, IsSegment segment) :
    IsKey (ofSegments parts) := by
  refine ⟨?_, canonical_ofSegments valid⟩
  intro none
  have same := segments_ofSegments valid
  rw [none] at same
  exact some same.symm

/-- In a canonical path no two separators meet, and none stands at an end. -/
theorem canonical_iff_cut :
    Canonical path ↔ path = [] ∨ ∀ piece ∈ Text.cut separator path, piece ≠ [] := by
  constructor
  · intro canonical
    rw [or_iff_not_imp_left]
    intro some
    have parts : segments path ≠ [] := (segments_eq_nil canonical).not.mpr some
    have valid := segments_valid path
    rw [← canonical, ofSegments, Text.cut_glue (fun w member => (valid w member).2) parts]
    exact fun piece member => (valid piece member).1
  · rintro (rfl | whole)
    · exact canonical_nil
    · have kept : segments path = Text.cut separator path :=
        List.filter_eq_self.mpr fun piece member => by simpa using whole piece member
      rw [Canonical, kept, ofSegments, Text.glue_cut]

theorem segments_append (p q : Text) :
    segments (p ++ separator :: q) = segments p ++ segments q := by
  rw [segments, Text.cut_append, List.filter_append]
  rfl

theorem ofSegments_append (left : xs ≠ []) (right : ys ≠ []) :
    ofSegments (xs ++ ys) = ofSegments xs ++ separator :: ofSegments ys :=
  Text.glue_append left right

theorem segments_segment (valid : IsSegment segment) : segments segment = [segment] := by
  have parts : ∀ s ∈ [segment], IsSegment s := by simpa using valid
  exact segments_ofSegments parts

theorem join_valid (parts : List Text) :
    ∀ segment ∈ parts.flatMap segments, IsSegment segment := by
  intro segment member
  obtain ⟨part, _, inside⟩ := List.mem_flatMap.mp member
  exact segments_valid part segment inside

theorem canonical_join (parts : List Text) : Canonical (join parts) :=
  canonical_ofSegments (join_valid parts)

theorem segments_join (parts : List Text) : segments (join parts) = parts.flatMap segments :=
  segments_ofSegments (join_valid parts)

theorem segments_parent (path : Text) : segments (parent path) = (segments path).dropLast :=
  segments_ofSegments fun segment member =>
    segments_valid path segment ((List.dropLast_sublist _).subset member)

theorem canonical_parent (path : Text) : Canonical (parent path) :=
  canonical_ofSegments fun segment member =>
    segments_valid path segment ((List.dropLast_sublist _).subset member)

theorem basename_eq (last : segments path = above ++ [name]) : basename path = name := by
  rw [basename, last, List.getLast?_concat, Option.getD_some]

theorem segments_basename_subset (path : Text) : segments (basename path) ⊆ segments path := by
  intro segment member
  cases last : (segments path).getLast? with
  | none =>
    rw [basename, last] at member
    contradiction
  | some name =>
    have known : name ∈ segments path := List.mem_of_getLast? last
    rw [basename, last, Option.getD_some, segments_segment (segments_valid path name known)] at member
    cases List.mem_singleton.mp member
    exact known

theorem basename_segment (valid : IsSegment segment) : basename segment = segment := by
  have last : segments segment = [] ++ [segment] := segments_segment valid
  exact basename_eq last

/-- A canonical path other than the root is that of a place in a folder. -/
theorem segments_basename (canonical : Canonical path) (some : path ≠ []) :
    segments path = (segments path).dropLast ++ [basename path] := by
  have parts : segments path ≠ [] := (segments_eq_nil canonical).not.mpr some
  rw [basename, List.getLast?_eq_getLast_of_ne_nil parts, Option.getD_some,
    List.dropLast_append_getLast parts]

theorem basename_valid (canonical : Canonical path) (some : path ≠ []) :
    IsSegment (basename path) := by
  apply segments_valid path
  rw [segments_basename canonical some]
  simp

theorem extension_congr (same : basename p = basename q) : extension p = extension q := by
  rw [extension, extension, same]

theorem extension_basename (canonical : Canonical path) (some : path ≠ []) :
    extension (basename path) = extension path :=
  extension_congr (basename_segment (basename_valid canonical some))

/-- The segments that a typed path would have if it did not climb. -/
theorem normalize_eq (typed : Text) :
    ∃ parts, (∀ segment ∈ parts, IsSegment segment ∧ isDots segment = false) ∧
      normalize typed = ofSegments parts := by
  rw [normalize]
  split
  · exact ⟨[], by simp, rfl⟩
  · rename_i free
    refine ⟨_, fun segment member => ⟨segments_valid _ segment member, ?_⟩, rfl⟩
    simp only [List.any_eq_true, not_exists, not_and, Bool.not_eq_true] at free
    exact free segment member

end LabEditor.Path
