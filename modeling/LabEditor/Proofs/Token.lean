import LabEditor.Token
import LabEditor.Proofs.Outcome
import LabEditor.Proofs.Scan
import LabEditor.Proofs.Text.CodePoint
import Mathlib.Algebra.Group.Nat.Defs
import Mathlib.Data.List.TakeWhile

/-! Tokens are read back as the numbers that they were written for, and what was set aside under
these numbers comes back in their place. -/
namespace LabEditor

namespace Text

theorem digitValue?_ascii (digit : c.isDigit = true) :
    digitValue? c = some (c.toNat - '0'.toNat) := by
  have low : c.toNat < 0x80 := by
    simp only [CodePoint.isDigit, Bool.and_eq_true, decide_eq_true_eq] at digit
    omega
  rw [digitValue?, if_pos low, if_pos digit]

theorem digits_ascii : ∀ c ∈ digits n, c.isDigit = true :=
by
  intro c member
  obtain ⟨d, known, rfl⟩ := List.mem_map.mp member
  exact CodePoint.isDigit_char.trans (Nat.isDigit_of_mem_toDigits (by decide) (by decide) known)

theorem isDigit_digits : ∀ c ∈ digits n, isDigit c = true := by
  intro c member
  rw [isDigit, digitValue?_ascii (digits_ascii c member)]
  rfl

theorem numberOf_ascii {cs : List Char} (ascii : ∀ c ∈ cs, c.isDigit = true) :
    numberOf (cs.map .char) = Nat.ofDigitChars 10 cs 0 := by
  suffices ∀ n, (cs.map CodePoint.char).foldl (fun n c => 10 * n + (digitValue? c).getD 0) n =
    Nat.ofDigitChars 10 cs n from
    this 0
  induction cs with
  | nil => exact fun _ => rfl
  | cons c cs ih =>
    intro n
    have digit : (CodePoint.char c).isDigit = true :=
      CodePoint.isDigit_char.trans (ascii c List.mem_cons_self)
    rw [List.map_cons, List.foldl_cons, digitValue?_ascii digit,
      ih fun d member => ascii d (List.mem_cons_of_mem c member)]
    rfl

theorem numberOf_digits (n : Nat) : numberOf (digits n) = n :=
  (numberOf_ascii fun _ => Nat.isDigit_of_mem_toDigits (by decide) (by decide)).trans
    Nat.ofDigitChars_ten_toDigits

theorem length_digits (n : Nat) : (digits n).length = (Nat.toDigits 10 n).length :=
  List.length_map _

theorem digits_ne_nil (n : Nat) : digits n ≠ [] :=
  List.map_eq_nil_iff.not.mpr Nat.toDigits_ne_nil

/-- A text whose characters a machine can count. -/
def Addressable (t : Text) : Prop :=
  t.length < 2 ^ 64

instance : DecidablePred Addressable := fun t =>
  inferInstanceAs (Decidable (t.length < 2 ^ 64))

/-- There are numbers enough for everything in such a text, and in one that is some times as long.
-/
theorem Addressable.few (addressable : Addressable t) (few : n ≤ 100 * (t.length + 1)) :
    n ≤ 10 ^ maxDigits := by
  have size : t.length < 2 ^ 64 := addressable
  have enough : 10 ^ 22 ≤ 10 ^ maxDigits := Nat.pow_le_pow_right (by decide) (by decide)
  omega

theorem number?_digits (small : n < 10 ^ maxDigits) : number? (digits n) = some n := by
  have short : (digits n).length ≤ maxDigits := by
    rw [length_digits]
    exact (Nat.length_toDigits_le_iff (by decide) (by decide)).mpr small
  rw [number?, if_pos short, numberOf_digits]

end Text

theorem resolve_digits {values : List α} (small : n < 10 ^ Text.maxDigits)
    (found : values[n]? = some value) : resolve values (Text.digits n) = .ok value := by
  simp only [resolve, Text.number?_digits small, found]

/-- A number that is too long, or stands for nothing, is no way to a wrong value. -/
theorem of_resolve_digits {values : List α}
    (resolved : resolve values (Text.digits n) = .ok value) :
    values[n]? = some value := by
  unfold resolve Text.number? at resolved
  split at resolved
  · contradiction
  · rename_i m short
    split at short
    · cases short
      rw [Text.numberOf_digits] at resolved
      split at resolved
      · rename_i found
        cases resolved
        exact found
      · contradiction
    · contradiction

namespace TokenMarks
variable {marks : TokenMarks} {ps : List (Piece CodePoint Nat)}

theorem not_mem_token (apart : c ≠ marks.opening ∧ c ≠ marks.closing) (letter : c.isDigit = false)
    (n : Nat) :
    c ∉ marks.token n := by
  intro member
  simp only [token, List.mem_cons, List.mem_append, List.not_mem_nil, or_false] at member
  rcases member with (same | digit) | same
  · exact apart.1 same
  · exact absurd (Text.digits_ascii c digit) (by simp [letter])
  · exact apart.2 same

theorem read?_plain (apart : c ≠ marks.opening) (t : Text) : marks.read? (c :: t) = none := by
  rw [read?, if_neg apart]

/-- A token ends at the first character that is no digit. -/
theorem read?_eq_some (closing : Text.isDigit marks.closing = false) :
    marks.read? t = some (digits, rest) ↔ t = marks.opening :: (digits ++ marks.closing :: rest) ∧
      digits ≠ [] ∧ ∀ c ∈ digits, Text.isDigit c = true := by
  constructor
  · intro read
    cases t with
    | nil => contradiction
    | cons c t =>
      have whole := List.prefix_iff_eq_append.mp (List.takeWhile_prefix (l := t) Text.isDigit)
      rw [read?] at read
      split at read
      · rename_i same
        simp only at read
        split at read
        · contradiction
        · rename_i d behind left
          split at read
          · rename_i ends
            cases read
            simp only [Bool.and_eq_true, Bool.not_eq_true', decide_eq_true_eq] at ends
            rw [left, ends.2] at whole
            exact ⟨by rw [whole, same], List.isEmpty_eq_false_iff.mp ends.1,
              fun c member => List.mem_takeWhile_imp member⟩
          · contradiction
      · contradiction
  · rintro ⟨rfl, some, all⟩
    have run : (digits ++ marks.closing :: rest).takeWhile Text.isDigit = digits := by
      rw [List.takeWhile_append_of_pos all, List.takeWhile_cons_of_neg (by simp [closing]),
        List.append_nil]
    have filled : digits.isEmpty = false := List.isEmpty_eq_false_iff.mpr some
    simp only [read?, if_true, run, List.drop_left, filled, Bool.not_false, Bool.true_and,
      decide_true]

theorem read?_token (closing : Text.isDigit marks.closing = false) (n : Nat) (t : Text) :
    marks.read? (marks.token n ++ t) = some (Text.digits n, t) := by
  have shape : marks.token n ++ t = marks.opening :: (Text.digits n ++ marks.closing :: t) := by
    rw [token, List.cons_append, List.cons_append, List.append_assoc]
    rfl
  exact (read?_eq_some closing).mpr ⟨shape, Text.digits_ne_nil n, Text.isDigit_digits⟩

/-- Pieces as a text with tokens in place of their numbers. -/
def spell (marks : TokenMarks) (ps : List (Piece CodePoint Nat)) : Text :=
  Piece.writeAll marks.token ps

/-- A pattern that reads each token of a text, and matches nowhere else, finds the numbers again. -/
theorem scans_spell {p : Pattern CodePoint Text}
    (plain : ∀ c, .plain c ∈ ps → ∀ before t, p before (c :: t) = none)
    (hit : ∀ n rest, .hit n :: rest <:+ ps →
      ∀ before, p before (marks.token n ++ marks.spell rest) =
        some (Text.digits n, marks.spell rest))
    (before : Option CodePoint) : p.Scans before (marks.spell ps) (ps.map (Piece.map Text.digits)) :=
  Pattern.scans_writeAll ps plain (fun n rest tail => ⟨List.cons_ne_nil _ _, hit n rest tail⟩)
    before

end TokenMarks

section
variable {α : Type} {values : List α} {ps : List (Piece CodePoint Nat)}

/-- Each token gives way to what its number stands for, if all numbers stand for something. -/
theorem writeAll?_resolve (write : α → Text) (small : values.length ≤ 10 ^ Text.maxDigits)
    (known : ∀ n, .hit n ∈ ps → n < values.length) :
    Piece.writeAll? (fun digits => (resolve values digits).map write)
      (ps.map (Piece.map Text.digits)) =
      .ok (Piece.writeAll (fun n => (values[n]?.map write).getD []) ps) := by
  rw [Piece.writeAll?_map]
  refine Piece.writeAll?_eq fun n member => ?_
  have below := known n member
  have found : values[n]? = some values[n] := List.getElem?_eq_getElem below
  have here := resolve_digits (Nat.lt_of_lt_of_le below small) found
  simp only [Function.comp_apply, here, found]
  rfl

/-- If tokens give way to anything, it is what their numbers stand for. -/
theorem of_writeAll?_resolve {write : α → Text}
    (done : Piece.writeAll? (fun digits => (resolve values digits).map write)
      (ps.map (Piece.map Text.digits)) = .ok out) :
    out = Piece.writeAll (fun n => (values[n]?.map write).getD []) ps := by
  rw [Piece.writeAll?_map] at done
  refine Piece.writeAll?_ok (fun n _ written resolved => ?_) done
  rw [Function.comp_apply] at resolved
  obtain ⟨value, here, same⟩ := Outcome.map_eq_ok.mp resolved
  rw [of_resolve_digits here, ← same]
  rfl

end

end LabEditor
