import LabEditor.Json.Reader
import LabEditor.Json.Writer
import LabEditor.Proofs.Outcome
import LabEditor.Proofs.Text.Joined

/-! Texts are read as they were written: each character comes back from its escape, one outside the
first plane from two units. -/
namespace LabEditor.Json

open CodePoint (IsHigh IsLow)
open Text (hexDigits hexValue? hexNumber)

variable {t u v rest skipped : Text} {c d e x : CodePoint} {n : Nat}

theorem hexValue?_digitChar (small : n < 16) : hexValue? (Nat.digitChar n) = some n := by
  revert n
  decide

theorem readUnit?_hexDigits (small : n < 0x10000) (rest : Text) :
    readUnit? (hexDigits 4 n ++ rest) = some (n, rest) := by
  have digit : ∀ k : Nat, hexValue? (Nat.digitChar (k % 16)) = some (k % 16) := fun k =>
    hexValue?_digitChar (Nat.mod_lt k (by decide))
  have number :
      16 * (16 * (16 * (16 * 0 + n / 16 / 16 / 16 % 16) + n / 16 / 16 % 16) + n / 16 % 16) + n % 16 =
        n := by
    omega
  simp only [hexDigits, List.nil_append, List.cons_append, readUnit?, List.all_cons, List.all_nil,
    digit, Option.isSome_some, Bool.and_self, if_true, hexNumber, List.foldl_cons, List.foldl_nil,
    Option.getD_some, number]

/-- Not both the first half of a pair and, behind it, an escape of the second. -/
def Unpaired (n : Nat) (rest : Text) : Prop :=
  IsHigh n → ∀ more low behind, rest = ('\\' : CodePoint) :: 'u' :: more →
    readUnit? more = some (low, behind) → ¬ IsLow low

/-- A code point of the first plane is its own unit. -/
theorem readEscapedUnit?_single (small : n < 0x10000) (unpaired : Unpaired n rest) :
    readEscapedUnit? (hexDigits 4 n ++ rest) = some (.ofNat n, rest) := by
  simp only [readEscapedUnit?, readUnit?_hexDigits small]
  split
  · rename_i high
    simp only [Bool.and_eq_true, decide_eq_true_eq] at high
    split
    · rename_i more
      split
      · rename_i low behind read
        have apart := unpaired high more low behind rfl read
        rw [if_neg (by simpa [IsLow] using apart)]
      · rfl
    · rfl
  · rfl

/-- The two units of a character outside the first plane. -/
theorem readEscapedUnit?_pair {high low : Nat} (first : IsHigh high) (second : IsLow low)
    (rest : Text) :
    readEscapedUnit? (hexDigits 4 high ++ (escapedUnit low ++ rest)) =
      some (.ofNat (0x10000 + (high - 0xd800) * 0x400 + (low - 0xdc00)), rest) := by
  have isHigh : (decide (0xd800 ≤ high) && decide (high < 0xdc00)) = true := by
    simpa [IsHigh] using first
  have isLow : (decide (0xdc00 ≤ low) && decide (low < 0xe000)) = true := by
    simpa [IsLow] using second
  simp only [readEscapedUnit?, escapedUnit, List.cons_append,
    readUnit?_hexDigits (Nat.lt_trans first.2 (by decide)),
    readUnit?_hexDigits (Nat.lt_trans second.2 (by decide)), isHigh, isLow, if_true]

theorem readText?_cons (c : CodePoint) (t : Text) : readText? 0 (c :: t) =
    if c = '"' then some ([], t)
    else if c = '\\' then
      match t with
      | [] => none
      | e :: u =>
        match if e = 'u' then readEscapedUnit? u else (simpleEscape? e).map fun x => (x, u) with
        | none => none
        | some (x, rest) => (readText? (t.length - rest.length) t).map fun (s, r) => (x :: s, r)
    else if c.toNat < 0x20 then none
    else (readText? 0 t).map fun (s, r) => (c :: s, r) := by
  cases t <;> rfl

theorem readText?_skip (skipped u : Text) :
    readText? skipped.length (skipped ++ u) = readText? 0 u := by
  induction skipped with
  | nil => rfl
  | cons c skipped ih => exact ih

/-- An escape stands for one character, and the text goes on behind it. -/
theorem readText?_escape (skipped : Text)
    (decoded : (if e = 'u' then readEscapedUnit? (skipped ++ u)
      else (simpleEscape? e).map fun x => (x, skipped ++ u)) = some (x, u)) :
    readText? 0 ('\\' :: e :: (skipped ++ u)) = (readText? 0 u).map fun (s, r) => (x :: s, r) := by
  have size : (e :: (skipped ++ u)).length - u.length = (e :: skipped).length := by
    simp only [List.length_cons, List.length_append]
    omega
  have skip := readText?_skip (e :: skipped) u
  rw [List.cons_append] at skip
  rw [readText?_cons, if_neg (by decide), if_pos rfl]
  simp only [decoded, size, skip]

theorem readText?_plain (quote : c ≠ '"') (escape : c ≠ '\\') (visible : 0x20 ≤ c.toNat)
    (u : Text) :
    readText? 0 (c :: u) = (readText? 0 u).map fun (s, r) => (c :: s, r) := by
  rw [readText?_cons, if_neg quote, if_neg escape, if_neg (Nat.not_lt.mpr visible)]

theorem readText?_pair {high low : Nat} (first : IsHigh high) (second : IsLow low) (u : Text) :
    readText? 0 (escapedUnit high ++ escapedUnit low ++ u) =
      (readText? 0 u).map fun (s, r) =>
        (.ofNat (0x10000 + (high - 0xd800) * 0x400 + (low - 0xdc00)) :: s, r) := by
  have pair := readEscapedUnit?_pair first second u
  rw [← List.append_assoc] at pair
  exact readText?_escape (hexDigits 4 high ++ escapedUnit low) pair

theorem readText?_escapedChar (unpaired : Unpaired c.toNat u) :
    readText? 0 (escapedChar c ++ u) = (readText? 0 u).map fun (s, r) => (c :: s, r) := by
  by_cases special : c ∈ (['"', '\\', '\n', '\r', '\t', '\x08', '\x0c'] : Text)
  · simp only [List.mem_cons, List.not_mem_nil, or_false] at special
    rcases special with rfl | rfl | rfl | rfl | rfl | rfl | rfl <;> exact readText?_escape [] rfl
  · simp only [List.mem_cons, List.not_mem_nil, or_false, not_or] at special
    obtain ⟨quote, escape, newline, carriage, tab, backspace, feed⟩ := special
    rw [escapedChar, if_neg quote, if_neg escape, if_neg newline, if_neg carriage, if_neg tab,
      if_neg backspace,
      if_neg feed]
    split
    · rename_i printable
      simp only [Bool.and_eq_true, decide_eq_true_eq] at printable
      exact readText?_plain quote escape printable.1 u
    · split
      · rename_i small
        have single := readEscapedUnit?_single small unpaired
        rw [CodePoint.ofNat_toNat] at single
        exact readText?_escape (hexDigits 4 c.toNat) single
      · rename_i large
        have valid := c.toNat_lt
        have whole : 0x10000 + (0xd800 + (c.toNat - 0x10000) / 0x400 - 0xd800) * 0x400 +
            (0xdc00 + (c.toNat - 0x10000) % 0x400 - 0xdc00) = c.toNat := by omega
        have first : IsHigh (0xd800 + (c.toNat - 0x10000) / 0x400) := by
          unfold IsHigh
          omega
        have second : IsLow (0xdc00 + (c.toNat - 0x10000) % 0x400) := by
          unfold IsLow
          omega
        have pair := readText?_pair first second u
        rw [whole, CodePoint.ofNat_toNat] at pair
        exact pair

theorem unpaired_escapedUnit {m : Nat} (small : m < 0x10000) (apart : IsHigh n → ¬ IsLow m)
    (rest : Text) : Unpaired n (escapedUnit m ++ rest) := by
  intro high more low behind shape read
  have same : hexDigits 4 m ++ rest = more := (List.cons.inj (List.cons.inj shape).2).2
  rw [← same, readUnit?_hexDigits small] at read
  cases read
  exact apart high

/-- What a code point is written as begins with no second half, unless it is one itself. -/
theorem unpaired_escapedChar (apart : IsHigh n → ¬ IsLow d.toNat) (rest : Text) :
    Unpaired n (escapedChar d ++ rest) := by
  by_cases special : d ∈ (['"', '\\', '\n', '\r', '\t', '\x08', '\x0c'] : Text)
  · simp only [List.mem_cons, List.not_mem_nil, or_false] at special
    intro _ more _ _ shape
    rcases special with rfl | rfl | rfl | rfl | rfl | rfl | rfl <;> cases shape
  · simp only [List.mem_cons, List.not_mem_nil, or_false, not_or] at special
    obtain ⟨quote, escape, newline, carriage, tab, backspace, feed⟩ := special
    rw [escapedChar, if_neg quote, if_neg escape, if_neg newline, if_neg carriage, if_neg tab,
      if_neg backspace, if_neg feed]
    split
    · intro _ more _ _ shape
      exact absurd (List.cons.inj shape).1 escape
    · split
      · rename_i small
        exact unpaired_escapedUnit small apart rest
      · have valid := d.toNat_lt
        rw [List.append_assoc]
        refine unpaired_escapedUnit (by omega) (fun _ low => ?_) _
        unfold IsLow at low
        omega

theorem readText_written (joined : t.Joined) (rest : Text) :
    readText (t.flatMap escapedChar ++ ('"' : CodePoint) :: rest) = .ok (t, rest) := by
  have read : readText? 0 (t.flatMap escapedChar ++ ('"' : CodePoint) :: rest) = some (t, rest) := by
    induction t with
    | nil => rfl
    | cons c t ih =>
      have unpaired : Unpaired c.toNat (t.flatMap escapedChar ++ ('"' : CodePoint) :: rest) := by
        cases t with
        | nil =>
          intro _ _ _ _ shape
          cases shape
        | cons d t =>
          rw [List.flatMap_cons, List.append_assoc]
          exact unpaired_escapedChar (List.isChain_cons_cons.mp joined).1 _
      rw [List.flatMap_cons, List.append_assoc, readText?_escapedChar unpaired, ih joined.of_cons,
        Option.map_some]
  rw [readText, read]

end LabEditor.Json
