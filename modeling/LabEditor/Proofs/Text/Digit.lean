import LabEditor.Proofs.Token
import Mathlib.Tactic.Ring

/-! Runs of decimal digits as numbers: what stands in front counts for a power of ten each place. -/
namespace LabEditor.Text

theorem foldl_digits (digits : Text) (n : Nat) :
    digits.foldl (fun n c => 10 * n + (digitValue? c).getD 0) n =
      n * 10 ^ digits.length + numberOf digits := by
  induction digits generalizing n with
  | nil => simp [numberOf]
  | cons c t ih =>
    rw [numberOf, List.foldl_cons, List.foldl_cons, ih, ih (10 * 0 + _), List.length_cons]
    ring

theorem numberOf_append (s t : Text) :
    numberOf (s ++ t) = numberOf s * 10 ^ t.length + numberOf t := by
  rw [numberOf, List.foldl_append, foldl_digits]
  rfl

theorem numberOf_cons (c : CodePoint) (t : Text) :
    numberOf (c :: t) = (digitValue? c).getD 0 * 10 ^ t.length + numberOf t := by
  rw [numberOf, List.foldl_cons, foldl_digits]
  simp

theorem numberOf_zeros (n : Nat) : numberOf (List.replicate n '0') = 0 := by
  induction n with
  | zero => rfl
  | succ n ih =>
    rw [List.replicate_succ, numberOf_cons, ih]
    simp [digitValue?, CodePoint.isDigit]

theorem numberOf_lt (ascii : ∀ c ∈ t, c.isDigit = true) : numberOf t < 10 ^ t.length := by
  induction t with
  | nil => simp [numberOf]
  | cons c t ih =>
    have rest := ih fun d member => ascii d (List.mem_cons_of_mem c member)
    have digit : c.isDigit = true := ascii c List.mem_cons_self
    have small : (digitValue? c).getD 0 ≤ 9 := by
      rw [digitValue?_ascii digit]
      simp only [CodePoint.isDigit, Bool.and_eq_true, decide_eq_true_eq] at digit
      have zero : '0'.toNat = 48 := rfl
      simp only [Option.getD_some, zero]
      omega
    have product := Nat.mul_le_mul_right (10 ^ t.length) small
    rw [numberOf_cons, List.length_cons, Nat.pow_succ]
    omega

/-- Only the number zero is written with a zero in front. -/
theorem digits_first (some : n ≠ 0) (shape : digits n = c :: t) : c ≠ '0' := by
  rintro rfl
  have value := numberOf_digits n
  have ascii : ∀ d ∈ t, d.isDigit = true := fun d member =>
    digits_ascii d (shape ▸ List.mem_cons_of_mem _ member)
  have small : n < 10 ^ t.length := by
    rw [← value, shape, numberOf_cons]
    simpa [digitValue?, CodePoint.isDigit] using numberOf_lt ascii
  have length : (digits n).length = t.length + 1 := by rw [shape, List.length_cons]
  by_cases single : t.length = 0
  · rw [single] at small
    omega
  · have short := (Nat.length_toDigits_le_iff (by decide) (Nat.pos_of_ne_zero single)).mpr small
    rw [← length_digits, length] at short
    omega

end LabEditor.Text
