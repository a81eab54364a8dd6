import LabEditor.Proofs.Path.Place

/-! How paths lie to each other: above, at or under. What moves along with a folder keeps lying to it
as it did, and it meets nothing where nothing lay at or under the target. -/
namespace LabEditor.Path
variable {folder path old new key root : Text} {keys : List Text}

theorem isWithin_iff_or :
    isWithin path root = true ↔ path = root ∨ isAncestor root path = true := by
  rw [isWithin, Bool.or_eq_true, beq_iff_eq]

theorem isWithin_refl (path : Text) : isWithin path path = true :=
  isWithin_iff_or.mpr (Or.inl rfl)

theorem isAncestor_irrefl (path : Text) : isAncestor path path = false := by
  rw [Bool.eq_false_iff]
  intro under
  obtain ⟨_, rest, same⟩ := isAncestor_iff_append.mp under
  have length := congrArg List.length same
  simp at length

theorem isAncestor_trans (upper : isAncestor folder path = true)
    (lower : isAncestor path key = true) :
    isAncestor folder key = true := by
  obtain ⟨some, xs, rfl⟩ := isAncestor_iff_append.mp upper
  obtain ⟨_, ys, rfl⟩ := isAncestor_iff_append.mp lower
  exact isAncestor_iff_append.mpr ⟨some, xs ++ separator :: ys, by simp⟩

theorem isWithin_trans (lower : isWithin key path = true) (upper : isWithin path root = true) :
    isWithin key root = true := by
  rcases isWithin_iff_or.mp lower with rfl | under
  · exact upper
  · rcases isWithin_iff_or.mp upper with rfl | above
    · exact lower
    · exact isWithin_iff_or.mpr (Or.inr (isAncestor_trans above under))

theorem isAncestor_of_isWithin (upper : isAncestor folder path = true)
    (within : isWithin key path = true) :
    isAncestor folder key = true := by
  rcases isWithin_iff_or.mp within with rfl | under
  · exact upper
  · exact isAncestor_trans upper under

theorem outside_of_isAncestor (above : isAncestor folder path = true) :
    isWithin folder path = false := by
  rw [Bool.eq_false_iff]
  intro within
  exact Bool.false_ne_true
    ((isAncestor_irrefl folder).symm.trans (isAncestor_of_isWithin above within))

theorem ne_nil_of_isWithin (some : root ≠ []) (within : isWithin path root = true) : path ≠ [] := by
  rintro rfl
  rcases isWithin_iff_or.mp within with rfl | above
  · exact some rfl
  · obtain ⟨_, rest, none⟩ := isAncestor_iff_append.mp above
    simp at none

/-- Of two paths over a third one, either lies above the other or at it. -/
theorem isAncestor_or_isWithin (upper : isAncestor folder path = true)
    (within : isWithin path key = true) :
    isAncestor folder key = true ∨ isWithin folder key = true := by
  rw [isWithin, Bool.or_eq_true, beq_iff_eq] at within ⊢
  rcases within with rfl | under
  · exact Or.inl upper
  · obtain ⟨some, xs, rfl⟩ := isAncestor_iff_append.mp upper
    obtain ⟨filled, ys, same⟩ := isAncestor_iff_append.mp under
    rcases List.append_eq_append_iff.mp same with ⟨between, rfl, rest⟩ | ⟨between, rfl, rest⟩
    · cases between with
      | nil => exact Or.inr (Or.inl (List.append_nil _).symm)
      | cons c between =>
        obtain ⟨rfl, _⟩ := List.cons.inj rest
        exact Or.inl (isAncestor_iff_append.mpr ⟨some, between, rfl⟩)
    · cases between with
      | nil => exact Or.inr (Or.inl (List.append_nil _))
      | cons c between =>
        obtain ⟨rfl, _⟩ := List.cons.inj rest
        exact Or.inr (Or.inr (isAncestor_iff_append.mpr ⟨filled, between, rfl⟩))

/-- What moves along with a folder keeps lying above what it lay above. -/
theorem isAncestor_rebase (left : IsPlace folder) (right : IsPlace path) (target : IsPlace new)
    (inside : segments folder = segments old ++ xs) (beside : segments path = segments old ++ ys) :
    isAncestor (rebase folder old new) (rebase path old new) = isAncestor folder path := by
  have above := place_rebase left target inside
  have below := place_rebase right target beside
  rw [Bool.eq_iff_iff, isAncestor_iff below.canonical, isAncestor_iff right.canonical]
  simp only [above.canonical, left.canonical, above.some, left.some, ne_eq, not_false_eq_true,
    true_and, segments_rebase inside, segments_rebase beside, inside, beside, List.append_assoc,
    List.append_cancel_left_eq]

/-- Of two paths over or at a third one, either lies above the other or at it. -/
theorem isWithin_or_isWithin (left : isWithin key folder = true)
    (right : isWithin key path = true) :
    isWithin folder path = true ∨ isWithin path folder = true := by
  rcases isWithin_iff_or.mp left with rfl | upper
  · exact Or.inl right
  · rcases isAncestor_or_isWithin upper right with above | within
    · exact Or.inr (isWithin_iff_or.mpr (Or.inr above))
    · exact Or.inl within

/-- What lies at or under a path lies outside `root` too, if the path is neither there nor above it. -/
theorem outside_of_isWithin (outside : isWithin path root = false)
    (higher : isAncestor path root = false)
    (within : isWithin key path = true) : isWithin key root = false := by
  rw [Bool.eq_false_iff]
  intro inside
  rcases isWithin_or_isWithin within inside with under | upper
  · exact Bool.false_ne_true (outside.symm.trans under)
  · rcases isWithin_iff_or.mp upper with rfl | above
    · exact Bool.false_ne_true (outside.symm.trans (isWithin_refl root))
    · exact Bool.false_ne_true (higher.symm.trans above)

/-- What a place lies at or under is a place. -/
theorem IsPlace.above (place : IsPlace key) (within : isWithin key path = true) : IsPlace path := by
  obtain ⟨canonical, some, rest, inside⟩ := (isWithin_iff place.canonical place.some).mp within
  refine ⟨some, canonical, fun segment member => ?_⟩
  exact place.plain segment (inside ▸ List.mem_append_left rest member)

theorem relocated_within (within : isWithin path old = true) :
    relocated old new path = rebase path old new :=
  if_pos within

theorem relocated_outside (outside : isWithin path old = false) :
    relocated old new path = path := by
  rw [relocated, outside, if_neg Bool.false_ne_true]

/-- What lies above something in a folder lies above the folder, or is it. -/
theorem isAncestor_child (valid : IsSegment name)
    (above : isAncestor path (join [folder, name]) = true) :
    Canonical path ∧ path ≠ [] ∧ ∃ between, segments folder = segments path ++ between := by
  obtain ⟨canonical, some, rest, more, same⟩ := (isAncestor_iff (canonical_join _)).mp above
  rw [segments_child folder valid, ← List.dropLast_append_getLast more, ← List.append_assoc] at same
  exact ⟨canonical, some, rest.dropLast, (List.append_inj' same rfl).1⟩

theorem IsPlace.relocated (place : IsPlace path) (target : IsPlace new) :
    IsPlace (relocated old new path) := by
  cases within : isWithin path old with
  | true =>
    obtain ⟨rest, inside⟩ := inside_of_isWithin within
    exact relocated_within within ▸ place_rebase place target inside
  | false => exact (relocated_outside within).symm ▸ place

/-- No key is at or under the target of a move. -/
structure Free (keys : List Text) (new : Text) : Prop where
  target : IsPlace new
  places : ∀ key ∈ keys, IsPlace key
  apart : ∀ key ∈ keys, isWithin key new = false

namespace Free

theorem absent (free : Free keys new) (within : isWithin path new = true) :
    path ∉ keys := fun member =>
  Bool.false_ne_true ((free.apart path member).symm.trans within)

theorem clear (free : Free keys new) (old : Text) : Clear keys old new where
  target := free.absent (isWithin_refl new)
  below := fun _ _ under =>
    free.absent (isWithin_rebase free.target.isKey (isWithin_iff_or.mpr (Or.inr under)))

/-- A path that moves is met by itself alone. -/
theorem relocated_eq_rebase (free : Free keys new) (place : IsPlace path)
    (moves : isWithin path old = true)
    (member : key ∈ keys) : relocated old new key = rebase path old new ↔ key = path := by
  constructor
  · intro same
    cases within : isWithin key old with
    | true =>
      obtain ⟨xs, inside⟩ := inside_of_isWithin within
      obtain ⟨ys, beside⟩ := inside_of_isWithin moves
      rw [relocated_within within] at same
      exact rebase_injective (free.places key member).canonical place.canonical inside beside same
    | false =>
      rw [relocated_outside within] at same
      exact absurd member (free.absent (same ▸ isWithin_rebase free.target.isKey moves))
  · rintro rfl
    exact relocated_within moves

/-- A path that stays is met by itself alone, unless it is one of the targets. -/
theorem relocated_eq_self (free : Free keys new) (stays : isWithin path old = false)
    (outside : isWithin path new = false) : relocated old new key = path ↔ key = path := by
  constructor
  · intro same
    cases within : isWithin key old with
    | true =>
      rw [relocated_within within] at same
      have lands := isWithin_rebase free.target.isKey within
      exact absurd (outside.symm.trans (same ▸ lands)) Bool.false_ne_true
    | false => exact relocated_outside within ▸ same
  · rintro rfl
    exact relocated_outside stays

/-- Moving back undoes a move. -/
theorem relocated_relocated (free : Free keys new) (member : key ∈ keys) :
    relocated new old (relocated old new key) = key := by
  have place := free.places key member
  cases within : isWithin key old with
  | true =>
    obtain ⟨rest, inside⟩ := inside_of_isWithin within
    rw [relocated_within within, relocated_within (isWithin_rebase free.target.isKey within),
      rebase_rebase place.canonical inside]
  | false => rw [relocated_outside within, relocated_outside (free.apart key member)]

/-- A move leaves nothing at or under the old path. -/
theorem back (free : Free keys new) (source : IsPlace old) (ahead : isWithin new old = false)
    (behind : isWithin old new = false) : Free (keys.map (relocated old new)) old := by
  refine ⟨source, ?_, ?_⟩
  · intro _ member
    obtain ⟨key, known, rfl⟩ := List.mem_map.mp member
    exact (free.places key known).relocated free.target
  · intro _ member
    obtain ⟨key, known, rfl⟩ := List.mem_map.mp member
    cases within : isWithin key old with
    | true =>
      rw [relocated_within within, Bool.eq_false_iff]
      intro under
      have lands := isWithin_rebase free.target.isKey within
      rcases isWithin_or_isWithin under lands with below | above
      · exact Bool.false_ne_true (behind.symm.trans below)
      · exact Bool.false_ne_true (ahead.symm.trans above)
    | false => rw [relocated_outside within, within]

/-- What moves lies above the same keys as before. -/
theorem isAncestor_rebase (free : Free keys new) (place : IsPlace path)
    (moves : isWithin path old = true)
    (member : key ∈ keys) :
    isAncestor (rebase path old new) (relocated old new key) = isAncestor path key := by
  cases within : isWithin key old with
  | true =>
    obtain ⟨xs, inside⟩ := inside_of_isWithin moves
    obtain ⟨ys, beside⟩ := inside_of_isWithin within
    rw [relocated_within within]
    exact Path.isAncestor_rebase place (free.places key member) free.target inside beside
  | false =>
    rw [relocated_outside within]
    have outside : isAncestor path key = false := by
      rw [Bool.eq_false_iff]
      intro above
      have under := isWithin_trans (isWithin_iff_or.mpr (Or.inr above)) moves
      exact Bool.false_ne_true (within.symm.trans under)
    rw [outside, Bool.eq_false_iff]
    intro above
    have lands := isWithin_rebase free.target.isKey moves
    exact free.absent (isWithin_trans (isWithin_iff_or.mpr (Or.inr above)) lands) member

theorem isWithin_relocated (free : Free keys new) (place : IsPlace path)
    (moves : isWithin path old = true)
    (member : key ∈ keys) :
    isWithin (relocated old new key) (rebase path old new) = true ↔ isWithin key path = true := by
  rw [isWithin_iff_or, isWithin_iff_or, free.isAncestor_rebase place moves member,
    free.relocated_eq_rebase place moves member]

end Free

end LabEditor.Path
