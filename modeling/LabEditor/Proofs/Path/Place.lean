import LabEditor.Proofs.Path.Relocation
import Mathlib.Data.List.Nodup

/-! The paths that records can have, and what becomes of them when a folder moves: they stay such
paths, and no two of them meet if the call has found its targets free. -/
namespace LabEditor.Path
variable {path name folder typed old new : Text} {parts rest keys : List Text}

/-- What can be the path of a record. -/
structure IsPlace (path : Text) : Prop where
  some : path ≠ []
  canonical : Canonical path
  plain : ∀ segment ∈ segments path, isDots segment = false

theorem IsPlace.isKey (place : IsPlace path) : IsKey path :=
  ⟨place.some, place.canonical⟩

theorem IsPlace.segments_ne_nil (place : IsPlace path) : segments path ≠ [] :=
  place.isKey.segments_ne_nil

theorem IsPlace.plain_basename (place : IsPlace path) : isDots (basename path) = false := by
  apply place.plain
  rw [segments_basename place.canonical place.some]
  exact List.mem_append_right _ List.mem_cons_self

theorem canonical_iff_join : Canonical path ↔ join (segments path) = path := by
  have parts : (segments path).flatMap segments = segments path := by
    have single : ∀ segment ∈ segments path, segments segment = [segment] := fun segment member =>
      segments_segment (segments_valid path segment member)
    rw [List.flatMap_congr single, List.flatMap_singleton']
  rw [Canonical, join, parts]

theorem place_ofSegments (some : parts ≠ [])
    (valid : ∀ segment ∈ parts, IsSegment segment ∧ isDots segment = false) :
    IsPlace (ofSegments parts) := by
  have segment_valid : ∀ segment ∈ parts, IsSegment segment := fun segment member =>
    (valid segment member).1
  have key := isKey_ofSegments some segment_valid
  refine ⟨key.some, key.canonical, ?_⟩
  rw [segments_ofSegments segment_valid]
  exact fun segment member => (valid segment member).2

theorem place_normalize (named : basename (normalize typed) ≠ []) : IsPlace (normalize typed) := by
  obtain ⟨parts, valid, same⟩ := normalize_eq typed
  rw [same] at named ⊢
  refine place_ofSegments ?_ valid
  rintro rfl
  exact named rfl

theorem segments_child (folder : Text) (valid : IsSegment name) :
    segments (join [folder, name]) = segments folder ++ [name] := by
  rw [segments_join, List.flatMap_cons, List.flatMap_singleton, segments_segment valid]

theorem basename_child (folder : Text) (valid : IsSegment name) :
    basename (join [folder, name]) = name :=
  basename_eq (segments_child folder valid)

theorem parent_child (canonical : Canonical folder) (valid : IsSegment name) :
    parent (join [folder, name]) = folder := by
  rw [parent, segments_child folder valid, List.dropLast_concat, canonical]

theorem join_parent_basename (canonical : Canonical path) (some : path ≠ []) :
    join [parent path, basename path] = path := by
  refine canonical_unique (canonical_join _) canonical ?_
  rw [segments_child _ (basename_valid canonical some), segments_parent,
    ← segments_basename canonical some]

theorem extension_child (folder : Text) (valid : IsSegment name) :
    extension (join [folder, name]) = extension name :=
  extension_congr ((basename_child folder valid).trans (basename_segment valid).symm)

/-- The root counts as a folder here, and it has no segments. -/
theorem place_child (above : ∀ segment ∈ segments folder, isDots segment = false)
    (valid : IsSegment name) (plain : isDots name = false) : IsPlace (join [folder, name]) := by
  have parts := segments_child folder valid
  refine ⟨?_, canonical_join _, ?_⟩
  · intro none
    rw [none] at parts
    exact List.append_ne_nil_of_right_ne_nil (segments folder) (by simp) parts.symm
  · intro segment member
    rw [parts, List.mem_append, List.mem_singleton] at member
    rcases member with inside | rfl
    · exact above segment inside
    · exact plain

theorem place_rebase (place : IsPlace path) (target : IsPlace new)
    (inside : segments path = segments old ++ rest) : IsPlace (rebase path old new) := by
  rw [rebase_eq inside]
  refine place_ofSegments (List.append_ne_nil_of_left_ne_nil target.segments_ne_nil rest)
    fun segment member => ?_
  refine ⟨moved_valid inside segment member, ?_⟩
  rcases List.mem_append.mp member with above | below
  · exact target.plain segment above
  · exact place.plain segment (inside ▸ List.mem_append_right _ below)

/-- Where a path goes when all that is at or under `old` goes to `new`. -/
def relocated (old new path : Text) : Text :=
  if isWithin path old then rebase path old new else path

/-- What a call that moves a folder looks at: none of the targets is taken. -/
structure Clear (keys : List Text) (old new : Text) : Prop where
  target : new ∉ keys
  below : ∀ key ∈ keys, isAncestor old key = true → rebase key old new ∉ keys

theorem Clear.rebase_absent (clear : Clear keys old new) (target : Canonical new) (member : key ∈ keys)
    (within : isWithin key old = true) : rebase key old new ∉ keys := by
  rw [isWithin, Bool.or_eq_true, beq_iff_eq] at within
  rcases within with rfl | under
  · rw [rebase_self target]
    exact clear.target
  · exact clear.below key member under

/-- What moves keeps apart from what moves along, because rewriting the front of a path is injective;
so no two paths meet if what moves meets nothing that stays. -/
theorem relocated_injective
    (apart : ∀ key ∈ keys, isWithin key old = true → rebase key old new ∈ keys →
      isWithin (rebase key old new) old = true)
    (places : ∀ key ∈ keys, IsPlace key) (left : p ∈ keys) (right : q ∈ keys)
    (same : relocated old new p = relocated old new q) : p = q := by
  by_cases first : isWithin p old = true
  · by_cases second : isWithin q old = true
    · simp only [relocated, first, second, if_true] at same
      have atP := places p left
      have atQ := places q right
      obtain ⟨xs, inside⟩ := inside_of_isWithin first
      obtain ⟨ys, beside⟩ := inside_of_isWithin second
      exact rebase_injective atP.canonical atQ.canonical inside beside same
    · simp only [relocated, first, second, if_true, Bool.false_eq_true, if_false] at same
      exact absurd (same ▸ apart p left first (same ▸ right)) second
  · by_cases second : isWithin q old = true
    · simp only [relocated, first, second, if_true, Bool.false_eq_true, if_false] at same
      exact absurd (same ▸ apart q right second (same ▸ left)) first
    · simpa only [relocated, first, second, Bool.false_eq_true, if_false] using same

theorem Clear.relocated_injective (clear : Clear keys old new) (target : Canonical new)
    (places : ∀ key ∈ keys, IsPlace key) (left : p ∈ keys) (right : q ∈ keys)
    (same : relocated old new p = relocated old new q) : p = q :=
  Path.relocated_injective
    (fun _ member within taken => absurd taken (clear.rebase_absent target member within))
    places left right same

theorem Clear.nodup_relocated (clear : Clear keys old new) (target : Canonical new)
    (places : ∀ key ∈ keys, IsPlace key) (distinct : keys.Nodup) :
    (keys.map (relocated old new)).Nodup :=
  List.Nodup.map_on (fun _ left _ right => clear.relocated_injective target places left right) distinct

end LabEditor.Path
