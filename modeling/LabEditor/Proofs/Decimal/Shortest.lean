import LabEditor.Decimal.Shortest
import LabEditor.Proofs.Decimal.Rounding
import LabEditor.Proofs.Text.Digit
import LabEditor.Proofs.Text.Trimming

/-! The digits that a number is written with are nearest to that number, so that they are read as it.
Seventeen digits are always enough, since the numbers lie further apart than the seventeenth digit
counts. -/
namespace LabEditor.Decimal
variable {num low high den m places : ℕ} {closed : Bool} {point shift : ℤ} {d : Digits}

/-- What digits after a decimal point are worth. -/
def Digits.worth (d : Digits) : ℚ :=
  d.number * 10 ^ (d.point - (Text.digits d.number).length)

theorem length_digits {n k : ℕ} (least : 10 ^ k ≤ n) (most : n < 10 ^ (k + 1)) :
    (Text.digits n).length = k + 1 := by
  rw [Text.length_digits]
  have upper : (Nat.toDigits 10 n).length ≤ k + 1 :=
    (Nat.length_toDigits_le_iff (by norm_num) (Nat.succ_pos k)).mpr most
  by_contra other
  have shorter : (Nat.toDigits 10 n).length ≤ k := by omega
  have some : (Nat.toDigits 10 n).length ≠ 0 := by simp [Nat.toDigits_ne_nil]
  have below := (Nat.length_toDigits_le_iff (n := n) (by norm_num) (by omega)).mp shorter
  omega

/-- Between two ratios, or at one of them if the ends count. -/
def Within (low high : ℚ) (closed : Bool) (v : ℚ) : Prop :=
  if closed then low ≤ v ∧ v ≤ high else low < v ∧ v < high

/-- The test that `nearestWithin` makes. -/
def passes (low high den : ℕ) (closed : Bool) (shift : ℤ) (m : ℕ) : Bool :=
  let v := m * den * Nat.pow 10 (-shift).toNat
  if closed then low * Nat.pow 10 shift.toNat ≤ v && v ≤ high * Nat.pow 10 shift.toNat
  else low * Nat.pow 10 shift.toNat < v && v < high * Nat.pow 10 shift.toNat

/-- The multiple of the last place that is not above a ratio. -/
def belowAt (num den : ℕ) (shift : ℤ) : ℕ :=
  num * Nat.pow 10 shift.toNat / (den * Nat.pow 10 (-shift).toNat)

/-- One of two neighbours that passes a test; if both do, a preference decides. -/
def choose? (test : ℕ → Bool) (lower : Bool) (m : ℕ) : Option ℕ :=
  if test m && test (m + 1) then if lower then some m else some (m + 1)
  else if test m then some m
  else if test (m + 1) then some (m + 1)
  else none

theorem nearestWithin_choose (num low high den : ℕ) (closed : Bool) (point : ℤ) (places : ℕ) :
    ∃ lower, nearestWithin num low high den closed point places =
      (choose? (passes low high den closed (places - point)) lower
        (belowAt num den (places - point))).map
        fun m => if m = Nat.pow 10 places then ⟨1, point + 1⟩ else ⟨m, point⟩ :=
  ⟨_, rfl⟩

theorem choose?_some {test : ℕ → Bool} {lower : Bool} {n : ℕ}
    (chosen : choose? test lower n = some m) : (m = n ∨ m = n + 1) ∧ test m = true := by
  rw [choose?] at chosen
  split at chosen
  · rename_i both
    obtain ⟨left, right⟩ := Bool.and_eq_true_iff.mp both
    split at chosen
    · cases chosen
      exact ⟨Or.inl rfl, left⟩
    · cases chosen
      exact ⟨Or.inr rfl, right⟩
  · split at chosen
    · rename_i left
      cases chosen
      exact ⟨Or.inl rfl, left⟩
    · split at chosen
      · rename_i right
        cases chosen
        exact ⟨Or.inr rfl, right⟩
      · contradiction

theorem choose?_isSome {test : ℕ → Bool} {lower : Bool} {n : ℕ} (next : m = n ∨ m = n + 1)
    (passed : test m = true) : (choose? test lower n).isSome = true := by
  rw [choose?]
  split
  · split <;> rfl
  · split
    · rfl
    · split
      · rfl
      · rename_i left right
        rcases next with rfl | rfl
        · exact absurd passed left
        · exact absurd passed right

theorem zpow_parts (base : ℚ) (shift : ℤ) :
    base ^ shift = base ^ shift.toNat / base ^ (-shift).toNat := by
  rcases Int.le_total 0 shift with up | down
  · obtain ⟨k, rfl⟩ := Int.eq_ofNat_of_zero_le up
    simp
  · obtain ⟨k, same⟩ := Int.eq_ofNat_of_zero_le (show 0 ≤ -shift by omega)
    have minus : shift = -(k : ℤ) := by omega
    subst minus
    simp

theorem ten_zpow_mul {a b c : ℤ} (sum : a + b = c) : (10 : ℚ) ^ a * 10 ^ b = 10 ^ c := by
  rw [← sum, zpow_add₀ (by norm_num)]

section
variable (m n : ℕ) (shift : ℤ)

theorem scaled_parts :
    (m : ℚ) * 10 ^ (-shift) = m * 10 ^ (-shift).toNat / 10 ^ shift.toNat := by
  rw [zpow_parts 10 (-shift), neg_neg]
  ring

theorem ratio_le_scaled (positive : 0 < den) :
    n * 10 ^ shift.toNat ≤ m * den * 10 ^ (-shift).toNat ↔
      (n : ℚ) / den ≤ m * 10 ^ (-shift) := by
  have size : (0 : ℚ) < den := by exact_mod_cast positive
  have up : (0 : ℚ) < 10 ^ shift.toNat := by positivity
  rw [scaled_parts, div_le_div_iff₀ size up, mul_right_comm (m : ℚ)]
  exact_mod_cast Iff.rfl

theorem scaled_le_ratio (positive : 0 < den) :
    m * den * 10 ^ (-shift).toNat ≤ n * 10 ^ shift.toNat ↔
      (m : ℚ) * 10 ^ (-shift) ≤ (n : ℚ) / den := by
  have size : (0 : ℚ) < den := by exact_mod_cast positive
  have up : (0 : ℚ) < 10 ^ shift.toNat := by positivity
  rw [scaled_parts, div_le_div_iff₀ up size, mul_right_comm (m : ℚ)]
  exact_mod_cast Iff.rfl

end

theorem passes_iff (positive : 0 < den) :
    passes low high den closed shift m = true ↔
      Within ((low : ℚ) / den) ((high : ℚ) / den) closed (m * 10 ^ (-shift)) := by
  rw [passes, Within]
  cases closed with
  | true =>
    simp only [if_true, Bool.and_eq_true, decide_eq_true_eq]
    exact and_congr (ratio_le_scaled m low shift positive) (scaled_le_ratio m high shift positive)
  | false =>
    simp only [Bool.false_eq_true, if_false, Bool.and_eq_true, decide_eq_true_eq]
    exact and_congr (lt_iff_lt_of_le_iff_le (scaled_le_ratio m low shift positive))
      (lt_iff_lt_of_le_iff_le (ratio_le_scaled m high shift positive))

theorem belowAt_bounds (num : ℕ) (shift : ℤ) (positive : 0 < den) :
    (belowAt num den shift : ℚ) ≤ (num : ℚ) / den * 10 ^ shift ∧
      (num : ℚ) / den * 10 ^ shift < belowAt num den shift + 1 := by
  have size : (0 : ℚ) < den := by exact_mod_cast positive
  have parts : (num : ℚ) / den * 10 ^ shift =
      ((num * 10 ^ shift.toNat : ℕ) : ℚ) / ((den * 10 ^ (-shift).toNat : ℕ) : ℚ) := by
    rw [zpow_parts 10 shift, div_mul_div_comm]
    push_cast
    rfl
  have whole : (0 : ℚ) < ((den * 10 ^ (-shift).toNat : ℕ) : ℚ) := by
    push_cast
    positivity
  rw [parts]
  constructor
  · rw [le_div_iff₀ whole]
    exact_mod_cast Nat.div_mul_le_self _ _
  · rw [div_lt_iff₀ whole]
    have positive' : 0 < den * 10 ^ (-shift).toNat := by exact_mod_cast whole
    exact_mod_cast Nat.lt_mul_of_div_lt (Nat.lt_succ_self _) positive'

/-- A multiple of the last place with all its digits before the point is worth what it counts. -/
theorem worth_places (point : ℤ) (least : 10 ^ places ≤ m) (most : m ≤ 10 ^ (places + 1)) :
    let d : Digits := if m = 10 ^ (places + 1) then ⟨1, point + 1⟩ else ⟨m, point⟩
    d.number ≠ 0 ∧ d.worth = m * 10 ^ (point - (places + 1 : ℕ)) := by
  split
  · rename_i full
    refine ⟨one_ne_zero, ?_⟩
    rw [Digits.worth, full]
    have single : (Text.digits 1).length = 1 := by decide
    have shifted := ten_zpow_mul (add_sub_cancel ((places + 1 : ℕ) : ℤ) point)
    rw [zpow_natCast] at shifted
    rw [single]
    push_cast at shifted ⊢
    rw [shifted, one_mul, add_sub_cancel_right]
  · rename_i less
    constructor
    · have some : 0 < 10 ^ places := by positivity
      exact Nat.ne_of_gt (Nat.lt_of_lt_of_le some least)
    · rw [Digits.worth, length_digits least (by omega)]

theorem nearestWithin_worth (positive : 0 < den) (least : (10 : ℚ) ^ (point - 1) ≤ (num : ℚ) / den)
    (most : (num : ℚ) / den < 10 ^ point)
    (found : nearestWithin num low high den closed point (places + 1) = some d) :
    d.number ≠ 0 ∧ Within ((low : ℚ) / den) ((high : ℚ) / den) closed d.worth := by
  obtain ⟨lower, choice⟩ := nearestWithin_choose num low high den closed point (places + 1)
  rw [choice] at found
  obtain ⟨m, chosen, rfl⟩ := Option.map_eq_some_iff.mp found
  obtain ⟨next, passed⟩ := choose?_some chosen
  obtain ⟨above, under⟩ := belowAt_bounds num (((places + 1 : ℕ) : ℤ) - point) positive
  have unit := ten_zpow_pos (((places + 1 : ℕ) : ℤ) - point)
  have enough : 10 ^ places ≤ belowAt num den (((places + 1 : ℕ) : ℤ) - point) := by
    have whole : (10 : ℚ) ^ places = 10 ^ (point - 1) * 10 ^ (((places + 1 : ℕ) : ℤ) - point) := by
      rw [ten_zpow_mul (c := places) (by omega), zpow_natCast]
    have strict : (10 : ℚ) ^ places < belowAt num den (((places + 1 : ℕ) : ℤ) - point) + 1 := by
      rw [whole]
      exact lt_of_le_of_lt (mul_le_mul_of_nonneg_right least unit.le) under
    have count : 10 ^ places < belowAt num den (((places + 1 : ℕ) : ℤ) - point) + 1 := by
      exact_mod_cast strict
    omega
  have few : belowAt num den (((places + 1 : ℕ) : ℤ) - point) < 10 ^ (places + 1) := by
    have whole : (10 : ℚ) ^ (places + 1) = 10 ^ point * 10 ^ (((places + 1 : ℕ) : ℤ) - point) := by
      rw [ten_zpow_mul (add_sub_cancel point _), zpow_natCast]
    have strict : (belowAt num den (((places + 1 : ℕ) : ℤ) - point) : ℚ) < 10 ^ (places + 1) := by
      rw [whole]
      exact lt_of_le_of_lt above (mul_lt_mul_of_pos_right most unit)
    exact_mod_cast strict
  obtain ⟨some, worth⟩ := worth_places point (show 10 ^ places ≤ m by omega) (by omega)
  refine ⟨some, ?_⟩
  have tested := (passes_iff positive).mp passed
  rw [neg_sub] at tested
  exact worth ▸ tested

/-- Two neighbouring multiples cannot both miss what is wider than their distance. -/
theorem nearestWithin_found (closed : Bool) (positive : 0 < den)
    (lower : (low : ℚ) / den < (num : ℚ) / den) (upper : (num : ℚ) / den < (high : ℚ) / den)
    (wide : (10 : ℚ) ^ (point - places) < (high : ℚ) / den - (low : ℚ) / den) :
    (nearestWithin num low high den closed point places).isSome = true := by
  obtain ⟨side, choice⟩ := nearestWithin_choose num low high den closed point places
  obtain ⟨above, under⟩ := belowAt_bounds num ((places : ℤ) - point) positive
  rw [choice, Option.isSome_map]
  have unit := ten_zpow_pos ((places : ℤ) - point)
  have inverse : (10 : ℚ) ^ (point - (places : ℤ)) = (10 ^ ((places : ℤ) - point))⁻¹ := by
    rw [← zpow_neg, neg_sub]
  have strictly : ∀ n : ℕ, (low : ℚ) / den < n * 10 ^ (point - (places : ℤ)) →
      (n : ℚ) * 10 ^ (point - (places : ℤ)) < (high : ℚ) / den →
      passes low high den closed (places - point) n = true := by
    intro n more less
    rw [passes_iff positive, neg_sub, Within]
    split
    · exact ⟨more.le, less.le⟩
    · exact ⟨more, less⟩
  have belowLe : (belowAt num den ((places : ℤ) - point) : ℚ) * 10 ^ (point - (places : ℤ)) ≤
      (num : ℚ) / den := by
    rw [inverse, ← div_eq_mul_inv, div_le_iff₀ unit]
    exact above
  have aboveLt : (num : ℚ) / den <
      ((belowAt num den ((places : ℤ) - point) + 1 : ℕ) : ℚ) * 10 ^ (point - (places : ℤ)) := by
    rw [inverse, ← div_eq_mul_inv, lt_div_iff₀ unit]
    push_cast
    exact under
  by_cases first :
    (low : ℚ) / den < belowAt num den ((places : ℤ) - point) * 10 ^ (point - (places : ℤ))
  · exact choose?_isSome (Or.inl rfl) (strictly _ first (lt_of_le_of_lt belowLe upper))
  · refine choose?_isSome (Or.inr rfl) (strictly _ (lt_trans lower aboveLt) ?_)
    rw [not_lt] at first
    push_cast
    rw [add_mul, one_mul]
    linarith

/-- The digits before the point tell which powers of ten a ratio lies between. -/
theorem whole_bounds (positive : 0 < den) (whole : den ≤ num) :
    (10 : ℚ) ^ ((Nat.toDigits 10 (num / den)).length - 1 : ℤ) ≤ (num : ℚ) / den ∧
      (num : ℚ) / den < 10 ^ ((Nat.toDigits 10 (num / den)).length : ℤ) := by
  have size : (0 : ℚ) < den := by exact_mod_cast positive
  have some : num / den ≠ 0 := Nat.ne_of_gt (Nat.div_pos whole positive)
  obtain ⟨least, most⟩ := toDigits_bounds some
  have length : 0 < (Nat.toDigits 10 (num / den)).length :=
    List.length_pos_of_ne_nil Nat.toDigits_ne_nil
  constructor
  · have places : ((Nat.toDigits 10 (num / den)).length : ℤ) - 1 =
        ((Nat.toDigits 10 (num / den)).length - 1 : ℕ) := by omega
    rw [places, zpow_natCast, le_div_iff₀ size]
    exact_mod_cast le_trans (Nat.mul_le_mul_right den least) (Nat.div_mul_le_self num den)
  · rw [zpow_natCast, div_lt_iff₀ size]
    exact_mod_cast Nat.lt_mul_of_div_lt most positive

theorem le_shifted_iff (positive : 0 < den) (j : ℕ) :
    den ≤ num * 10 ^ (j + 1) ↔ (10 : ℚ) ^ (-(j : ℤ) - 1) ≤ (num : ℚ) / den := by
  have size : (0 : ℚ) < den := by exact_mod_cast positive
  have inverse : (10 : ℚ) ^ (-(j : ℤ) - 1) = ((10 : ℚ) ^ (j + 1))⁻¹ := by
    rw [← zpow_natCast, ← zpow_neg]
    congr 1
    push_cast
    ring
  rw [inverse, inv_le_iff_one_le_mul₀ (by positivity), div_mul_eq_mul_div, le_div_iff₀ size, one_mul]
  exact_mod_cast Iff.rfl

/-- The first shift that brings a ratio below one to a digit before the point. -/
theorem first_shift {j : ℕ} (positive : 0 < den) (fraction : num < den)
    (before : ∀ i < j, ¬ den ≤ num * 10 ^ (i + 1)) : (num : ℚ) / den < 10 ^ (-(j : ℤ)) := by
  cases j with
  | zero =>
    have size : (0 : ℚ) < den := by exact_mod_cast positive
    rw [Nat.cast_zero, neg_zero, zpow_zero, div_lt_one size]
    exact_mod_cast fraction
  | succ i =>
    have less := before i (Nat.lt_succ_self i)
    rw [le_shifted_iff positive, not_le] at less
    have same : -((i + 1 : ℕ) : ℤ) = -(i : ℤ) - 1 := by
      push_cast
      ring
    rw [same]
    exact less

/-- The power of ten just above a ratio that is not too small. -/
theorem pointOf_spec (positive : 0 < den) (large : (10 : ℚ) ^ (-400 : ℤ) ≤ (num : ℚ) / den) :
    (10 : ℚ) ^ (pointOf num den - 1) ≤ (num : ℚ) / den ∧
      (num : ℚ) / den < 10 ^ pointOf num den := by
  rw [pointOf]
  split
  · rename_i whole
    exact whole_bounds positive whole
  · rename_i fraction
    split
    · rename_i j found
      obtain ⟨here, _, before⟩ := List.find?_range_eq_some.mp found
      refine ⟨(le_shifted_iff positive j).mp (of_decide_eq_true here), ?_⟩
      apply first_shift positive (Nat.lt_of_not_le fraction)
      intro i earlier
      simpa using before i earlier
    · rename_i none
      obtain ⟨j, far, inside⟩ : ∃ j, 399 ≤ j ∧ j ∈ List.range 400 :=
        ⟨399, Nat.le_refl _, List.mem_range.mpr (by norm_num)⟩
      have reached : den ≤ num * 10 ^ (j + 1) := (le_shifted_iff positive j).mpr
        (le_trans (zpow_le_zpow_right₀ (by norm_num) (by omega)) large)
      exact absurd (decide_eq_true reached) (List.find?_eq_none.mp none j inside)

/-- How far apart the midpoints around a number lie, in units of the last place. -/
theorem halfBelow_wide (m : ℕ) (e : ℤ) (short : m < 2 ^ 53) :
    (m : ℚ) < (halfBelow m e + 1 / 2) * 10 ^ 16 := by
  rw [halfBelow]
  split
  · rename_i power
    rw [power.1]
    norm_num
  · have bound : (m : ℚ) < 2 ^ 53 := by exact_mod_cast short
    refine lt_trans bound ?_
    norm_num

/-- Seventeen digits are enough for a ratio if what is read as it is wide enough. -/
theorem fewest_within (closed : Bool) (positive : 0 < den)
    (large : (10 : ℚ) ^ (-400 : ℤ) ≤ (num : ℚ) / den)
    (lower : (low : ℚ) / den < (num : ℚ) / den) (upper : (num : ℚ) / den < (high : ℚ) / den)
    (wide : (num : ℚ) / den < ((high : ℚ) / den - (low : ℚ) / den) * 10 ^ 16) :
    ∃ d, (List.range 17).findSome?
        (fun n => nearestWithin num low high den closed (pointOf num den) (n + 1)) = some d ∧
      d.number ≠ 0 ∧ Within ((low : ℚ) / den) ((high : ℚ) / den) closed d.worth := by
  obtain ⟨least, most⟩ := pointOf_spec positive large
  have last : (10 : ℚ) ^ (pointOf num den - (16 + 1 : ℕ)) < (high : ℚ) / den - (low : ℚ) / den := by
    have places :
        (10 : ℚ) ^ (pointOf num den - (16 + 1 : ℕ)) * 10 ^ 16 = 10 ^ (pointOf num den - 1) := by
      rw [← zpow_natCast, ten_zpow_mul]
      push_cast
      ring
    have scaled := lt_of_le_of_lt least wide
    rw [← places] at scaled
    exact lt_of_mul_lt_mul_right scaled (by positivity)
  have found := nearestWithin_found closed positive lower upper last
  have inside : 16 ∈ List.range 17 := List.mem_range.mpr (by norm_num)
  obtain ⟨d, chosen⟩ := Option.isSome_iff_exists.mp (List.findSome?_isSome_iff
    (f := fun n => nearestWithin num low high den closed (pointOf num den) (n + 1)).mpr
      ⟨16, inside, found⟩)
  obtain ⟨n, _, here⟩ := List.exists_of_findSome?_eq_some chosen
  exact ⟨d, chosen, nearestWithin_worth positive least most here⟩

/-- A quarter of a number of 64 bits as a ratio of whole numbers. -/
theorem quarters_ratio (n : ℕ) (e : ℤ) :
    ((n * 2 ^ (e - 2).toNat : ℕ) : ℚ) / (2 ^ (2 - e).toNat : ℕ) = n / 4 * 2 ^ e := by
  have parts := zpow_parts 2 (e - 2)
  rw [neg_sub, zpow_sub₀ (by norm_num)] at parts
  push_cast
  rw [mul_div_assoc, ← parts]
  ring

/-- The shortest digits of a number are read as that number. -/
theorem shortest_nearest {e : ℤ} (normal : IsNormal m e) (some : m ≠ 0) :
    (shortest m e).number ≠ 0 ∧ Nearest (shortest m e).worth m e := by
  have unit := two_zpow_pos e
  have positive : 0 < 2 ^ (2 - e).toNat := Nat.pow_pos (by norm_num)
  have half := halfBelow_pos m e
  have itself : ((4 * m * 2 ^ (e - 2).toNat : ℕ) : ℚ) / (2 ^ (2 - e).toNat : ℕ) = m * 2 ^ e := by
    rw [quarters_ratio]
    push_cast
    ring
  have below : (((4 * m - if m = 2 ^ 52 ∧ -1074 < e then 1 else 2) * 2 ^ (e - 2).toNat : ℕ) : ℚ) /
      (2 ^ (2 - e).toNat : ℕ) = (m - halfBelow m e) * 2 ^ e := by
    have quarters : halfBelow m e = ((if m = 2 ^ 52 ∧ -1074 < e then 1 else 2 : ℕ) : ℚ) / 4 := by
      rw [halfBelow]
      split <;> norm_num
    have enough : (if m = 2 ^ 52 ∧ -1074 < e then 1 else 2) ≤ 4 * m := by
      split <;> omega
    rw [quarters_ratio, quarters, Nat.cast_sub enough]
    push_cast
    ring
  have above : (((4 * m + 2) * 2 ^ (e - 2).toNat : ℕ) : ℚ) / (2 ^ (2 - e).toNat : ℕ) =
      (m + 1 / 2) * 2 ^ e := by
    rw [quarters_ratio]
    push_cast
    ring
  have large := ((Nearest.self m e).range normal some).1
  have lower : ((m : ℚ) - halfBelow m e) * 2 ^ e < m * 2 ^ e :=
    mul_lt_mul_of_pos_right (by linarith) unit
  have upper : (m : ℚ) * 2 ^ e < (m + 1 / 2) * 2 ^ e := mul_lt_mul_of_pos_right (by linarith) unit
  have wide : (m : ℚ) * 2 ^ e < ((m + 1 / 2) * 2 ^ e - (m - halfBelow m e) * 2 ^ e) * 10 ^ 16 := by
    have apart := mul_lt_mul_of_pos_right (halfBelow_wide m e normal.short) unit
    linarith
  rw [← itself] at large lower upper wide
  rw [← below] at lower wide
  rw [← above] at upper wide
  obtain ⟨d, found, number, within⟩ := fewest_within (m % 2 == 0) positive large lower upper wide
  have same : shortest m e = d := by
    simp only [shortest, Nat.pow_eq, Bool.and_eq_true, decide_eq_true_eq, found, Option.getD_some]
  rw [same]
  refine ⟨number, ?_⟩
  rw [below, above, Within] at within
  split at within
  · rename_i even
    exact ⟨within.1, within.2, fun _ => eq_of_beq even⟩
  · exact ⟨within.1.le, within.2.le, fun tie => absurd tie (not_or.mpr ⟨within.1.ne', within.2.ne⟩)⟩

/-- Zeros at the end of digits after a decimal point count for nothing. -/
theorem worth_zeros {n : ℕ} (some : n ≠ 0) (k : ℕ) (point : ℤ) :
    (Digits.mk (n * 10 ^ k) point).worth = (Digits.mk n point).worth := by
  obtain ⟨least, most⟩ := toDigits_bounds some
  have length : 0 < (Nat.toDigits 10 n).length := List.length_pos_of_ne_nil Nat.toDigits_ne_nil
  have longer : (Text.digits (n * 10 ^ k)).length = (Nat.toDigits 10 n).length - 1 + k + 1 := by
    apply length_digits
    · rw [pow_add]
      exact Nat.mul_le_mul_right _ least
    · rw [show (Nat.toDigits 10 n).length - 1 + k + 1 = (Nat.toDigits 10 n).length + k by omega,
        pow_add]
      exact Nat.mul_lt_mul_of_pos_right most (by positivity)
  rw [Digits.worth, Digits.worth, longer, Text.length_digits]
  push_cast
  rw [mul_assoc, ← zpow_natCast, ← zpow_add₀ (by norm_num)]
  congr 2
  omega

/-- A number of 64 bits that is not zero is written by digits that it is nearest to. -/
theorem write_finite {e : ℤ} (normal : IsNormal m e) (some : m ≠ 0) (negative : Bool)
    (infinity noNumber : Text) :
    ∃ d : Digits, d.number ≠ 0 ∧ Nearest d.worth m e ∧
      (Binary64.finite negative m e).write infinity noNumber =
        (if negative then (['-'] : Text) else []) ++ d.write := by
  obtain ⟨number, nearest⟩ := shortest_nearest normal some
  obtain ⟨k, zeros⟩ := Text.dropEndWhile_replicate '0' (Text.digits (shortest m e).number)
  have value : (shortest m e).number =
      Text.numberOf (Text.dropEndWhile (· == '0') (Text.digits (shortest m e).number)) * 10 ^ k := by
    have parts := congrArg Text.numberOf zeros
    rw [Text.numberOf_append, Text.numberOf_digits, Text.numberOf_zeros,
      List.length_replicate] at parts
    exact parts
  have kept :
      Text.numberOf (Text.dropEndWhile (· == '0') (Text.digits (shortest m e).number)) ≠ 0 := by
    intro zero
    rw [zero, Nat.zero_mul] at value
    exact number value
  refine ⟨⟨Text.numberOf (Text.dropEndWhile (· == '0') (Text.digits (shortest m e).number)),
    (shortest m e).point⟩, kept, ?_, ?_⟩
  · rw [← worth_zeros kept k, ← value]
    exact nearest
  · rw [Binary64.write, if_neg some]

end LabEditor.Decimal
