import LabEditor.Decimal.Binary64
import Mathlib.Algebra.Order.Field.Power
import Mathlib.Data.Nat.Log
import Mathlib.Data.Rat.Floor
import Mathlib.Tactic.FieldSimp
import Mathlib.Tactic.Linarith
import Mathlib.Tactic.Positivity
import Mathlib.Tactic.Ring

/-! Rounding to 64 bits. Whatever lies between the midpoints to the two neighbours of a number is
rounded to that number, and so is a midpoint if the mantissa is even. -/
namespace LabEditor.Decimal

/-- A ratio is nearer to a whole number than to any other, or halfway and the number is even. -/
structure RoundsTo (v : ℚ) (m : ℕ) : Prop where
  low : (m : ℚ) - 1 / 2 ≤ v
  high : v ≤ m + 1 / 2
  tie : v = m - 1 / 2 ∨ v = m + 1 / 2 → m % 2 = 0

section
variable {num den m : ℕ} (positive : 0 < den) (rounds : RoundsTo ((num : ℚ) / den) m)
include positive rounds

theorem RoundsTo.least : 2 * (m * den) ≤ 2 * num + den := by
  have size : (0 : ℚ) < den := by exact_mod_cast positive
  have bound := rounds.low
  rw [le_div_iff₀ size] at bound
  have whole : (2 : ℚ) * (m * den) ≤ 2 * num + den := by linarith
  exact_mod_cast whole

theorem RoundsTo.most : 2 * num ≤ 2 * (m * den) + den := by
  have size : (0 : ℚ) < den := by exact_mod_cast positive
  have bound := rounds.high
  rw [div_le_iff₀ size] at bound
  have whole : (2 : ℚ) * num ≤ 2 * (m * den) + den := by linarith
  exact_mod_cast whole

theorem RoundsTo.even (half : 2 * (m * den) = 2 * num + den ∨ 2 * num = 2 * (m * den) + den) :
    m % 2 = 0 := by
  have size : (0 : ℚ) < den := by exact_mod_cast positive
  apply rounds.tie
  rw [div_eq_iff size.ne', div_eq_iff size.ne']
  refine half.imp (fun same => ?_) (fun same => ?_)
  · have whole : (2 : ℚ) * (m * den) = 2 * num + den := by exact_mod_cast same
    linarith
  · have whole : (2 : ℚ) * num = 2 * (m * den) + den := by exact_mod_cast same
    linarith

theorem roundDiv_eq : roundDiv num den = m := by
  have low := rounds.least positive
  have high := rounds.most positive
  have even := rounds.even positive
  have parts := Nat.div_add_mod num den
  have rest := Nat.mod_lt num positive
  have least : num / den ≤ m := by
    by_contra above
    have step : (m + 1) * den ≤ num / den * den := Nat.mul_le_mul_right den (by omega)
    rw [Nat.add_mul, Nat.one_mul, Nat.mul_comm (num / den)] at step
    omega
  have most : m ≤ num / den + 1 := by
    by_contra above
    have step : (num / den + 2) * den ≤ m * den := Nat.mul_le_mul_right den (by omega)
    rw [Nat.add_mul, Nat.mul_comm (num / den)] at step
    omega
  rw [roundDiv]
  rcases Nat.lt_or_ge (num / den) m with more | same
  · have equal : m = num / den + 1 := by omega
    have product : m * den = den * (num / den) + den := by
      rw [equal, Nat.add_mul, Nat.mul_comm, Nat.one_mul]
    split
    · omega
    · split
      · exact equal.symm
      · have parity := even (Or.inl (by omega))
        omega
  · have equal : m = num / den := by omega
    have product : m * den = den * (num / den) := by rw [equal, Nat.mul_comm]
    split
    · exact equal.symm
    · split
      · omega
      · have parity := even (Or.inr (by omega))
        omega

end

theorem two_zpow_pos (e : ℤ) : (0 : ℚ) < 2 ^ e := by positivity

theorem scaled_ratio (num : ℕ) {den : ℕ} (positive : 0 < den) (e : ℤ) :
    0 < (scaled num den e).2 ∧
      ((scaled num den e).1 : ℚ) / (scaled num den e).2 = (num : ℚ) / den / 2 ^ e := by
  rw [scaled]
  split
  · rename_i up
    obtain ⟨k, rfl⟩ := Int.eq_ofNat_of_zero_le up
    constructor
    · exact Nat.mul_pos positive (Nat.pow_pos (by decide))
    · simp [div_div]
  · rename_i down
    obtain ⟨k, same⟩ := Int.eq_ofNat_of_zero_le (show 0 ≤ -e by omega)
    have negative : e = -(k : ℤ) := by omega
    constructor
    · exact positive
    · rw [negative]
      simp [mul_div_right_comm]

/-- Mantissa and exponent as numbers of 64 bits have them. -/
structure IsNormal (m : ℕ) (e : ℤ) : Prop where
  short : m < 2 ^ 53
  least : -1074 ≤ e
  greatest : e ≤ 971
  full : 2 ^ 52 ≤ m ∨ e = -1074

/-- Half the way to the number below, in units of the last place. Below a power of two the numbers lie
twice as close. -/
def halfBelow (m : ℕ) (e : ℤ) : ℚ :=
  if m = 2 ^ 52 ∧ -1074 < e then 1 / 4 else 1 / 2

theorem halfBelow_le (m : ℕ) (e : ℤ) : halfBelow m e ≤ 1 / 2 := by
  rw [halfBelow]
  split <;> norm_num

theorem halfBelow_pos (m : ℕ) (e : ℤ) : 0 < halfBelow m e := by
  rw [halfBelow]
  split <;> norm_num

/-- A ratio lies between the midpoints to the neighbours of a number, or at one if the mantissa is
even. -/
structure Nearest (v : ℚ) (m : ℕ) (e : ℤ) : Prop where
  low : ((m : ℚ) - halfBelow m e) * 2 ^ e ≤ v
  high : v ≤ ((m : ℚ) + 1 / 2) * 2 ^ e
  tie : v = ((m : ℚ) - halfBelow m e) * 2 ^ e ∨ v = ((m : ℚ) + 1 / 2) * 2 ^ e → m % 2 = 0

theorem Nearest.self (m : ℕ) (e : ℤ) : Nearest (m * 2 ^ e) m e := by
  have unit := two_zpow_pos e
  have half := halfBelow_pos m e
  refine ⟨?_, ?_, fun tie => ?_⟩
  · apply mul_le_mul_of_nonneg_right _ unit.le
    linarith
  · apply mul_le_mul_of_nonneg_right _ unit.le
    linarith
  · rcases tie with same | same
    · have equal := mul_right_cancel₀ unit.ne' same
      linarith
    · have equal := mul_right_cancel₀ unit.ne' same
      linarith

/-- The logarithms of the parts of a ratio give its own up to one. -/
theorem ratio_bounds {num den : ℕ} (numPositive : num ≠ 0) (denPositive : den ≠ 0) :
    (2 : ℚ) ^ ((Nat.log2 num : ℤ) - Nat.log2 den - 1) < (num : ℚ) / den ∧
      (num : ℚ) / den < 2 ^ ((Nat.log2 num : ℤ) - Nat.log2 den + 1) := by
  have size : (0 : ℚ) < den := by exact_mod_cast Nat.pos_of_ne_zero denPositive
  have numLow : (2 : ℚ) ^ Nat.log2 num ≤ num := by exact_mod_cast Nat.log2_self_le numPositive
  have numHigh : (num : ℚ) < 2 ^ (Nat.log2 num + 1) := by exact_mod_cast Nat.lt_log2_self
  have denLow : (2 : ℚ) ^ Nat.log2 den ≤ den := by exact_mod_cast Nat.log2_self_le denPositive
  have denHigh : (den : ℚ) < 2 ^ (Nat.log2 den + 1) := by exact_mod_cast Nat.lt_log2_self
  constructor
  · have whole : (2 : ℚ) ^ ((Nat.log2 num : ℤ) - Nat.log2 den - 1) * 2 ^ (Nat.log2 den + 1) =
        2 ^ Nat.log2 num := by
      rw [← zpow_natCast, ← zpow_natCast, ← zpow_add₀ (by norm_num)]
      congr 1
      push_cast
      ring
    rw [lt_div_iff₀ size]
    calc (2 : ℚ) ^ ((Nat.log2 num : ℤ) - Nat.log2 den - 1) * den
        < 2 ^ ((Nat.log2 num : ℤ) - Nat.log2 den - 1) * 2 ^ (Nat.log2 den + 1) := by gcongr
      _ = 2 ^ Nat.log2 num := whole
      _ ≤ num := numLow
  · have whole : (2 : ℚ) ^ ((Nat.log2 num : ℤ) - Nat.log2 den + 1) * 2 ^ Nat.log2 den =
        2 ^ (Nat.log2 num + 1) := by
      rw [← zpow_natCast, ← zpow_natCast, ← zpow_add₀ (by norm_num)]
      congr 1
      push_cast
      ring
    rw [div_lt_iff₀ size]
    calc (num : ℚ) < 2 ^ (Nat.log2 num + 1) := numHigh
      _ = 2 ^ ((Nat.log2 num : ℤ) - Nat.log2 den + 1) * 2 ^ Nat.log2 den := whole.symm
      _ ≤ 2 ^ ((Nat.log2 num : ℤ) - Nat.log2 den + 1) * den := by gcongr

/-- The exponent of the greatest power of two that is not above a ratio. -/
def floorLog (num den : ℕ) : ℤ :=
  let guess : ℤ := (Nat.log2 num : ℤ) - (Nat.log2 den : ℤ)
  let ratio := scaled num den guess
  if ratio.2 ≤ ratio.1 then guess else guess - 1

theorem floorLog_spec {num den : ℕ} (numPositive : num ≠ 0) (denPositive : den ≠ 0) :
    (2 : ℚ) ^ floorLog num den ≤ (num : ℚ) / den ∧
      (num : ℚ) / den < 2 ^ (floorLog num den + 1) := by
  obtain ⟨low, high⟩ := ratio_bounds numPositive denPositive
  obtain ⟨positive, ratio⟩ :=
    scaled_ratio num (Nat.pos_of_ne_zero denPositive) ((Nat.log2 num : ℤ) - Nat.log2 den)
  have size : (0 : ℚ) < (scaled num den ((Nat.log2 num : ℤ) - Nat.log2 den)).2 := by
    exact_mod_cast positive
  rw [floorLog]
  split
  · rename_i above
    have whole : (1 : ℚ) ≤ (num : ℚ) / den / 2 ^ ((Nat.log2 num : ℤ) - Nat.log2 den) := by
      rw [← ratio, le_div_iff₀ size, one_mul]
      exact_mod_cast above
    rw [le_div_iff₀ (two_zpow_pos _), one_mul] at whole
    exact ⟨whole, high⟩
  · rename_i below
    have whole : (num : ℚ) / den / 2 ^ ((Nat.log2 num : ℤ) - Nat.log2 den) < 1 := by
      rw [← ratio, div_lt_iff₀ size, one_mul]
      exact_mod_cast Nat.lt_of_not_le below
    rw [div_lt_iff₀ (two_zpow_pos _), one_mul] at whole
    rw [sub_add_cancel]
    exact ⟨le_of_lt low, whole⟩

theorem ofRatio_eq (negative : Bool) (num den : ℕ) : Binary64.ofRatio negative num den =
    let e := max (floorLog num den - 52) (-1074)
    let mantissa := roundDiv (scaled num den e).1 (scaled num den e).2
    let (mantissa, e) := if mantissa = 2 ^ 53 then (2 ^ 52, e + 1) else (mantissa, e)
    if 971 < e then .infinite negative else .finite negative mantissa e := by
  have same : (if (scaled num den ((Nat.log2 num : ℤ) - Nat.log2 den)).2 ≤
      (scaled num den ((Nat.log2 num : ℤ) - Nat.log2 den)).1 then
        (Nat.log2 num : ℤ) - Nat.log2 den - 52
      else (Nat.log2 num : ℤ) - Nat.log2 den - 53) = floorLog num den - 52 := by
    rw [floorLog]
    split <;> omega
  rw [← same]
  rfl

section
variable {num den m : ℕ} {e : ℤ} {v : ℚ}

theorem roundDiv_scaled {k : ℤ} {n : ℕ} (denPositive : den ≠ 0)
    (rounds : RoundsTo ((num : ℚ) / den / 2 ^ k) n) :
    roundDiv (scaled num den k).1 (scaled num den k).2 = n := by
  obtain ⟨positive, ratio⟩ := scaled_ratio num (Nat.pos_of_ne_zero denPositive) k
  exact roundDiv_eq positive (ratio ▸ rounds)

/-- A power of two in units of a last place. -/
theorem two_zpow_add (k : ℕ) (e : ℤ) : (2 : ℚ) ^ (k + e) = 2 ^ k * 2 ^ e := by
  rw [zpow_add₀ (by norm_num), zpow_natCast]

theorem Nearest.lt_top (nearest : Nearest v m e) (normal : IsNormal m e) : v < 2 ^ (53 + e) := by
  have short : (m : ℚ) + 1 ≤ 2 ^ 53 := by exact_mod_cast normal.short
  refine lt_of_le_of_lt nearest.high (lt_of_lt_of_eq ?_ (two_zpow_add 53 e).symm)
  apply mul_lt_mul_of_pos_right _ (two_zpow_pos e)
  linarith

theorem Nearest.roundsTo (nearest : Nearest v m e) : RoundsTo (v / 2 ^ e) m := by
  have unit := two_zpow_pos e
  have below := halfBelow_le m e
  refine ⟨?_, ?_, ?_⟩
  · rw [le_div_iff₀ unit]
    refine le_trans (mul_le_mul_of_nonneg_right ?_ unit.le) nearest.low
    linarith
  · rw [div_le_iff₀ unit]
    exact nearest.high
  · intro tie
    rcases tie with same | same
    · rw [div_eq_iff unit.ne'] at same
      have half : halfBelow m e = 1 / 2 := by
        have bound := nearest.low
        rw [same, mul_le_mul_iff_left₀ unit] at bound
        linarith
      exact nearest.tie (Or.inl (half ▸ same))
    · rw [div_eq_iff unit.ne'] at same
      exact nearest.tie (Or.inr same)

/-- A ratio may be nearest to a power of two and still lie below it, where numbers are closer. -/
theorem Nearest.below_power (nearest : Nearest v m e) (normal : IsNormal m e) (inner : e ≠ -1074)
    (small : v < 2 ^ (52 + e)) :
    m = 2 ^ 52 ∧ 2 ^ (51 + e) ≤ v ∧ RoundsTo (v / 2 ^ (e - 1)) (2 ^ 53) := by
  have unit := two_zpow_pos e
  have under := two_zpow_pos (e - 1)
  have full : 2 ^ 52 ≤ m := normal.full.resolve_right inner
  have least : m = 2 ^ 52 := by
    by_contra other
    have more : (2 : ℚ) ^ 52 + 1 ≤ m := by exact_mod_cast (show 2 ^ 52 + 1 ≤ m by omega)
    have bound := lt_of_le_of_lt nearest.low (lt_of_lt_of_eq small (two_zpow_add 52 e))
    rw [mul_lt_mul_iff_left₀ unit] at bound
    have below := halfBelow_le m e
    linarith
  have bottom := normal.least
  have quarter : halfBelow m e = 1 / 4 := if_pos ⟨least, by omega⟩
  have low : ((2 : ℚ) ^ 52 - 1 / 4) * 2 ^ e ≤ v := by
    have bound := nearest.low
    rw [quarter, least] at bound
    exact_mod_cast bound
  have half : (2 : ℚ) ^ e = 2 * 2 ^ (e - 1) := by
    rw [zpow_sub_one₀ (by norm_num)]
    ring
  refine ⟨least, ?_, ?_, ?_, fun _ => by norm_num⟩
  · refine le_trans (le_of_eq_of_le (two_zpow_add 51 e) ?_) low
    apply mul_le_mul_of_nonneg_right _ unit.le
    norm_num
  · rw [le_div_iff₀ under]
    rw [half] at low
    push_cast
    linarith
  · rw [div_le_iff₀ under]
    have bound := lt_of_lt_of_eq small (two_zpow_add 52 e)
    rw [half] at bound
    push_cast
    linarith

/-- A ratio that a number is nearest to is rounded to it. -/
theorem ofRatio_nearest (negative : Bool) (numPositive : num ≠ 0) (denPositive : den ≠ 0)
    (normal : IsNormal m e) (nearest : Nearest ((num : ℚ) / den) m e) :
    Binary64.ofRatio negative num den = .finite negative m e := by
  obtain ⟨logLow, logHigh⟩ := floorLog_spec numPositive denPositive
  have log_lt : ∀ {k : ℤ}, (num : ℚ) / den < 2 ^ k → floorLog num den < k := fun less =>
    (zpow_lt_zpow_iff_right₀ (by norm_num)).mp (lt_of_le_of_lt logLow less)
  have log_ge : ∀ {k : ℤ}, 2 ^ k ≤ (num : ℚ) / den → k < floorLog num den + 1 := fun more =>
    (zpow_lt_zpow_iff_right₀ (by norm_num)).mp (lt_of_le_of_lt more logHigh)
  have top := log_lt (nearest.lt_top normal)
  have greatest := normal.greatest
  have least := normal.least
  rw [ofRatio_eq]
  by_cases usual : (2 : ℚ) ^ (52 + e) ≤ (num : ℚ) / den ∨ e = -1074
  · have exponent : max (floorLog num den - 52) (-1074) = e := by
      rcases usual with large | denormal
      · have bottom := log_ge large
        omega
      · omega
    have size : m ≠ 2 ^ 53 := Nat.ne_of_lt normal.short
    simp only [exponent, roundDiv_scaled denPositive nearest.roundsTo, size, if_false]
    rw [if_neg (by omega)]
  · push Not at usual
    obtain ⟨small, inner⟩ := usual
    obtain ⟨power, large, rounds⟩ := nearest.below_power normal inner small
    have exponent : max (floorLog num den - 52) (-1074) = e - 1 := by
      have below := log_lt small
      have bottom := log_ge large
      omega
    simp only [exponent, roundDiv_scaled denPositive rounds, if_true]
    rw [sub_add_cancel, if_neg (by omega), power]

end

theorem ten_zpow_pos (e : ℤ) : (0 : ℚ) < 10 ^ e := by positivity

/-- How many digits a number has says which powers of ten it lies between. -/
theorem toDigits_bounds {n : ℕ} (positive : n ≠ 0) :
    10 ^ ((Nat.toDigits 10 n).length - 1) ≤ n ∧ n < 10 ^ (Nat.toDigits 10 n).length := by
  have some : Nat.toDigits 10 n ≠ [] := Nat.toDigits_ne_nil
  have length := List.length_pos_of_ne_nil some
  refine ⟨?_, (Nat.length_toDigits_le_iff (by norm_num) length).mp (Nat.le_refl _)⟩
  by_contra less
  by_cases single : (Nat.toDigits 10 n).length - 1 = 0
  · rw [single] at less
    omega
  · have short := (Nat.length_toDigits_le_iff (by norm_num) (Nat.pos_of_ne_zero single)).mpr
      (Nat.lt_of_not_le less)
    omega

/-- A power of two has three tenths of its exponent as digits, and a third is more. -/
theorem two_pow_le_ten (k : ℕ) : (2 : ℚ) ^ (3 * k) ≤ 10 ^ k := by
  rw [pow_mul]
  exact pow_le_pow_left₀ (by norm_num) (by norm_num) k

/-- What a normal number is nearest to is far inside the range that is computed. -/
theorem Nearest.range {v : ℚ} {m : ℕ} {e : ℤ} (nearest : Nearest v m e) (normal : IsNormal m e)
    (positive : m ≠ 0) : (10 : ℚ) ^ (-400 : ℤ) ≤ v ∧ v < 10 ^ (400 : ℤ) := by
  have unit := two_zpow_pos e
  constructor
  · have one : (1 : ℚ) ≤ m := by exact_mod_cast Nat.one_le_iff_ne_zero.mpr positive
    have below := halfBelow_le m e
    have least : (2 : ℚ) ^ (-1074 : ℤ) ≤ 2 ^ e := zpow_le_zpow_right₀ (by norm_num) normal.least
    have power : (10 : ℚ) ^ (-400 : ℤ) ≤ 1 / 2 * 2 ^ (-1074 : ℤ) := by
      have half : (1 / 2 : ℚ) * 2 ^ (-1074 : ℤ) = 2 ^ (-1075 : ℤ) := by
        rw [show (-1075 : ℤ) = -1074 - 1 by norm_num, zpow_sub_one₀ (by norm_num)]
        ring
      have shorter : (2 : ℚ) ^ 1075 ≤ 2 ^ (3 * 359) := pow_le_pow_right₀ (by norm_num) (by norm_num)
      have longer : (10 : ℚ) ^ 359 ≤ 10 ^ 400 := pow_le_pow_right₀ (by norm_num) (by norm_num)
      rw [half, zpow_neg, zpow_neg]
      exact inv_anti₀ (by positivity) (le_trans (le_trans shorter (two_pow_le_ten 359)) longer)
    calc (10 : ℚ) ^ (-400 : ℤ) ≤ 1 / 2 * 2 ^ (-1074 : ℤ) := power
      _ ≤ 1 / 2 * 2 ^ e := by gcongr
      _ ≤ ((m : ℚ) - halfBelow m e) * 2 ^ e := by
        apply mul_le_mul_of_nonneg_right _ unit.le
        linarith
      _ ≤ v := nearest.low
  · have short : (m : ℚ) + 1 ≤ 2 ^ 53 := by exact_mod_cast normal.short
    have greatest : (2 : ℚ) ^ e ≤ 2 ^ (971 : ℤ) := zpow_le_zpow_right₀ (by norm_num) normal.greatest
    have power : (2 : ℚ) ^ 53 * 2 ^ (971 : ℤ) < 10 ^ (400 : ℤ) := by
      have whole : (2 : ℚ) ^ 53 * 2 ^ (971 : ℤ) = 2 ^ 1024 := by
        rw [show (971 : ℤ) = (971 : ℕ) by norm_num, zpow_natCast, ← pow_add]
      have shorter : (2 : ℚ) ^ 1024 ≤ 2 ^ (3 * 342) := pow_le_pow_right₀ (by norm_num) (by norm_num)
      have longer : (10 : ℚ) ^ 342 < 10 ^ 400 := pow_lt_pow_right₀ (by norm_num) (by norm_num)
      rw [whole]
      exact lt_of_le_of_lt (le_trans shorter (two_pow_le_ten 342)) longer
    calc v ≤ ((m : ℚ) + 1 / 2) * 2 ^ e := nearest.high
      _ ≤ 2 ^ 53 * 2 ^ e := by
        apply mul_le_mul_of_nonneg_right _ unit.le
        linarith
      _ ≤ 2 ^ 53 * 2 ^ (971 : ℤ) := by gcongr
      _ < 10 ^ (400 : ℤ) := power

/-- The digits of a decimal and its exponent tell which powers of ten it lies between. -/
theorem decimal_bounds {digits : ℕ} (exponent : ℤ) (some : digits ≠ 0) :
    (10 : ℚ) ^ (exponent + (Nat.toDigits 10 digits).length - 1) ≤ digits * 10 ^ exponent ∧
      (digits : ℚ) * 10 ^ exponent < 10 ^ (exponent + (Nat.toDigits 10 digits).length) := by
  obtain ⟨least, most⟩ := toDigits_bounds some
  have length : 0 < (Nat.toDigits 10 digits).length := List.length_pos_of_ne_nil Nat.toDigits_ne_nil
  have unit := ten_zpow_pos exponent
  constructor
  · have places : exponent + (Nat.toDigits 10 digits).length - 1 =
        ((Nat.toDigits 10 digits).length - 1 : ℕ) + exponent := by omega
    rw [places, zpow_add₀ (by norm_num), zpow_natCast]
    apply mul_le_mul_of_nonneg_right _ unit.le
    exact_mod_cast least
  · rw [add_comm, zpow_add₀ (by norm_num), zpow_natCast]
    apply mul_lt_mul_of_pos_right _ unit
    exact_mod_cast most

/-- A decimal that a number is nearest to is read as that number. -/
theorem ofDecimal_nearest {digits m : ℕ} {exponent e : ℤ} (negative : Bool) (some : digits ≠ 0)
    (positive : m ≠ 0) (normal : IsNormal m e)
    (nearest : Nearest ((digits : ℚ) * 10 ^ exponent) m e) :
    Binary64.ofDecimal negative digits exponent = .finite negative m e := by
  obtain ⟨low, high⟩ := nearest.range normal positive
  obtain ⟨lower, upper⟩ := decimal_bounds exponent some
  have small : exponent + (Nat.toDigits 10 digits).length ≤ 400 := by
    have strict := lt_of_le_of_lt lower high
    rw [zpow_lt_zpow_iff_right₀ (by norm_num)] at strict
    omega
  have large : -400 ≤ exponent + (Nat.toDigits 10 digits).length := by
    have strict := lt_of_le_of_lt low upper
    rw [zpow_lt_zpow_iff_right₀ (by norm_num)] at strict
    omega
  rw [Binary64.ofDecimal, if_neg some, if_neg (by omega), if_neg (by omega)]
  split
  · rename_i up
    obtain ⟨k, rfl⟩ := Int.eq_ofNat_of_zero_le up
    have whole : ((digits * 10 ^ k : ℕ) : ℚ) / (1 : ℕ) = digits * 10 ^ (k : ℤ) := by simp
    have more : digits * 10 ^ k ≠ 0 := Nat.mul_ne_zero some (pow_ne_zero k (by norm_num))
    exact ofRatio_nearest negative more one_ne_zero normal (whole ▸ nearest)
  · rename_i down
    obtain ⟨k, same⟩ := Int.eq_ofNat_of_zero_le (show 0 ≤ -exponent by omega)
    have minus : exponent = -(k : ℤ) := by omega
    subst minus
    have whole : ((digits : ℕ) : ℚ) / (10 ^ k : ℕ) = digits * 10 ^ (-(k : ℤ)) := by
      rw [zpow_neg, zpow_natCast, div_eq_mul_inv]
      push_cast
      rfl
    rw [neg_neg]
    exact ofRatio_nearest negative some (pow_ne_zero k (by norm_num)) normal (whole ▸ nearest)

end LabEditor.Decimal
