import LabEditor.Proofs.Path.Segments

/-! What lies under a folder, and where it comes to lie when the folder moves. The tests look at the
characters of a path and the moving at its segments; on canonical paths both see the same. -/
namespace LabEditor.Path
variable {p q path folder root old new third : Text} {rest : List Text}

theorem isAncestor_iff_append :
    isAncestor folder path = true ↔ folder ≠ [] ∧ ∃ rest, path = folder ++ separator :: rest := by
  rw [isAncestor, Bool.and_eq_true, Text.startsWith_iff]
  constructor
  · rintro ⟨some, rest, same⟩
    exact ⟨by simpa using some, rest, by simp [← same]⟩
  · rintro ⟨some, rest, rfl⟩
    exact ⟨by simpa using some, rest, by simp⟩

/-- Only a canonical path can begin a canonical one, so nothing is asked of the folder. -/
theorem isAncestor_iff (canonical : Canonical path) :
    isAncestor folder path = true ↔
      Canonical folder ∧ folder ≠ [] ∧ ∃ rest, rest ≠ [] ∧ segments path = segments folder ++ rest := by
  rw [isAncestor_iff_append]
  constructor
  · rintro ⟨some, rest, rfl⟩
    have whole := (canonical_iff_cut.mp canonical).resolve_left (by simp)
    rw [Text.cut_append] at whole
    have above : Canonical folder :=
      canonical_iff_cut.mpr (Or.inr fun piece member => whole piece (List.mem_append_left _ member))
    have below : Canonical rest :=
      canonical_iff_cut.mpr (Or.inr fun piece member => whole piece (List.mem_append_right _ member))
    refine ⟨above, some, segments rest, ?_, segments_append folder rest⟩
    intro none
    have empty := (segments_eq_nil below).mp none
    exact whole [] (by simp [empty, Text.cut]) rfl
  · rintro ⟨above, some, rest, more, same⟩
    have parts : segments folder ≠ [] := (segments_eq_nil above).not.mpr some
    refine ⟨some, ofSegments rest, ?_⟩
    rw [← canonical, same, ofSegments_append parts more, above]

/-- For a place other than the root, to be at or under `root` is to begin with its segments. -/
theorem isWithin_iff (canonical : Canonical path) (some : path ≠ []) :
    isWithin path root = true ↔
      Canonical root ∧ root ≠ [] ∧ ∃ rest, segments path = segments root ++ rest := by
  rw [isWithin, Bool.or_eq_true, beq_iff_eq, isAncestor_iff canonical]
  constructor
  · rintro (rfl | ⟨above, place, rest, _, same⟩)
    · exact ⟨canonical, some, [], (List.append_nil _).symm⟩
    · exact ⟨above, place, rest, same⟩
  · rintro ⟨above, place, rest, same⟩
    cases rest with
    | nil => exact Or.inl (canonical_unique canonical above (by simpa using same))
    | cons first rest => exact Or.inr ⟨above, place, first :: rest, by simp, same⟩

/-- Whatever is at or under a path begins with its segments. -/
theorem inside_of_isWithin (within : isWithin path root = true) :
    ∃ rest, segments path = segments root ++ rest := by
  rw [isWithin, Bool.or_eq_true, beq_iff_eq, isAncestor_iff_append] at within
  rcases within with rfl | ⟨_, rest, rfl⟩
  · exact ⟨[], (List.append_nil _).symm⟩
  · exact ⟨segments rest, segments_append root rest⟩

/-- The converse needs canonical paths: `a//b` begins with the segments of `a/b`. -/
theorem isWithin_iff_isPrefix (canonical : Canonical path) (upper : IsKey root) :
    isWithin path root = true ↔ segments root <+: segments path := by
  constructor
  · intro within
    obtain ⟨rest, inside⟩ := inside_of_isWithin within
    exact ⟨rest, inside.symm⟩
  · rintro ⟨rest, inside⟩
    have some : path ≠ [] := by
      rintro rfl
      exact upper.segments_ne_nil (List.append_eq_nil_iff.mp inside).1
    exact (isWithin_iff canonical some).mpr ⟨upper.canonical, upper.some, rest, inside.symm⟩

example : isWithin "a//b" "a/b" = false ∧ segments "a/b" <+: segments "a//b" := by decide

theorem below?_eq_some {root path : List Text} : below? root path = some rest ↔ path = root ++ rest := by
  induction root generalizing path with
  | nil => simp [below?]
  | cons r root ih =>
    cases path with
    | nil => simp [below?]
    | cons p path =>
      by_cases same : r = p
      · simp [below?, same, ih]
      · simp [below?, same, Ne.symm same]

theorem rebase_eq (inside : segments path = segments old ++ rest) :
    rebase path old new = ofSegments (segments new ++ rest) := by
  rw [rebase, below?_eq_some.mpr inside]

theorem rebase_self (canonical : Canonical new) : rebase old old new = new := by
  have inside : segments old = segments old ++ [] := (List.append_nil _).symm
  rw [rebase_eq inside, List.append_nil, canonical]

theorem moved_valid (inside : segments path = segments old ++ rest) :
    ∀ segment ∈ segments new ++ rest, IsSegment segment := by
  intro segment member
  rcases List.mem_append.mp member with above | below
  · exact segments_valid new segment above
  · exact segments_valid path segment (inside ▸ List.mem_append_right _ below)

theorem segments_rebase (inside : segments path = segments old ++ rest) :
    segments (rebase path old new) = segments new ++ rest := by
  rw [rebase_eq inside, segments_ofSegments (moved_valid inside)]

theorem canonical_rebase (inside : segments path = segments old ++ rest) :
    Canonical (rebase path old new) := by
  rw [rebase_eq inside]
  exact canonical_ofSegments (moved_valid inside)

/-- Different places in a folder stay different when the folder moves. -/
theorem rebase_injective (left : Canonical p) (right : Canonical q)
    (inside : segments p = segments old ++ xs) (beside : segments q = segments old ++ ys)
    (same : rebase p old new = rebase q old new) : p = q := by
  have parts := congrArg segments same
  rw [segments_rebase inside, segments_rebase beside] at parts
  have rest : xs = ys := List.append_cancel_left parts
  exact canonical_unique left right (by rw [inside, beside, rest])

theorem isKey_rebase (target : IsKey new) (inside : segments path = segments old ++ rest) :
    IsKey (rebase path old new) := by
  rw [rebase_eq inside]
  have parts : segments new ++ rest ≠ [] :=
    List.append_ne_nil_of_left_ne_nil target.segments_ne_nil rest
  exact isKey_ofSegments parts (moved_valid inside)

theorem isWithin_rebase (target : IsKey new) (within : isWithin path old = true) :
    isWithin (rebase path old new) new = true := by
  obtain ⟨rest, inside⟩ := inside_of_isWithin within
  rw [isWithin_iff_isPrefix (canonical_rebase inside) target, segments_rebase inside]
  exact List.prefix_append _ _

/-- What lies outside stays, and then the target does not matter. -/
theorem rebase_outside (canonical : Canonical path) (source : IsKey old)
    (outside : isWithin path old = false) (new : Text) : rebase path old new = path := by
  rw [rebase]
  split
  · rename_i rest found
    have within := (isWithin_iff_isPrefix canonical source).mpr
      ⟨rest, (below?_eq_some.mp found).symm⟩
    exact absurd (outside.symm.trans within) Bool.false_ne_true
  · rfl

/-- What moves goes on from its target as if it had come from there. -/
theorem rebase_trans (inside : segments path = segments old ++ rest) :
    rebase (rebase path old new) new third = rebase path old third := by
  rw [rebase_eq (segments_rebase inside), rebase_eq inside]

theorem rebase_in_place (canonical : Canonical path) : rebase path old old = path := by
  rw [rebase]
  split
  · rename_i rest found
    rw [← below?_eq_some.mp found, canonical]
  · rfl

/-- Rewriting the front of a path and then writing it back comes to nothing. -/
theorem rebase_rebase (canonical : Canonical path) (inside : segments path = segments old ++ rest) :
    rebase (rebase path old new) new old = path := by
  rw [rebase_trans inside, rebase_in_place canonical]

theorem rebase_eq_self_iff (canonical : Canonical path) (source : IsKey old)
    (target : Canonical new) :
    rebase path old new = path ↔ isWithin path old = false ∨ old = new := by
  constructor
  · intro same
    cases within : isWithin path old with
    | false => exact Or.inl rfl
    | true =>
      obtain ⟨rest, inside⟩ := inside_of_isWithin within
      have parts : segments (rebase path old new) = segments new ++ rest := segments_rebase inside
      rw [same, inside] at parts
      exact Or.inr (canonical_unique source.canonical target (List.append_cancel_right parts))
  · rintro (outside | rfl)
    · exact rebase_outside canonical source outside new
    · exact rebase_in_place canonical

/-- What lies below the folder itself keeps its name. -/
theorem basename_rebase (inside : segments path = segments old ++ rest) (below : rest ≠ []) :
    basename (rebase path old new) = basename path := by
  have last : ∀ above : List Text, (above ++ rest).getLast? = rest.getLast? := fun above =>
    List.getLast?_append_of_ne_nil above below
  rw [basename, basename, segments_rebase inside, inside, last, last]

end LabEditor.Path
