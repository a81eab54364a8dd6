import LabEditor.Json.Reader
import LabEditor.Json.Writer
import LabEditor.Proofs.Decimal.Shortest

/-! Numbers are read as they were written, if what stands behind them cannot belong to a number. -/
namespace LabEditor.Json

open Decimal
open Text (digits numberOf digits_ascii digits_ne_nil)

variable {rest u v w whole fraction size : Text} {exponent : Option Int} {d : Digits}
  (negative : Bool)

/-- A run of digits ends here. -/
def NoDigit (rest : Text) : Prop :=
  ∀ c, rest.head? = some c → c.isDigit = false

/-- A number ends here. -/
structure NoNumber (rest : Text) : Prop where
  digit : NoDigit rest
  point : rest.head? ≠ some ('.' : CodePoint)
  exponent : rest.head? ≠ some ('e' : CodePoint) ∧ rest.head? ≠ some ('E' : CodePoint)

theorem takeWhile_digits (ascii : ∀ c ∈ size, c.isDigit = true) (stop : NoDigit rest) :
    (size ++ rest).takeWhile CodePoint.isDigit = size := by
  rw [List.takeWhile_append_of_pos ascii]
  cases rest with
  | nil => simp
  | cons c rest => rw [List.takeWhile_cons_of_neg (by simp [stop c rfl]), List.append_nil]

theorem readFraction_point (ascii : ∀ c ∈ fraction, c.isDigit = true) (some : fraction ≠ [])
    (stop : NoDigit rest) :
    readFraction ('.' :: (fraction ++ rest)) = (fraction, rest) := by
  have more : fraction.isEmpty = false := by simp [some]
  simp only [readFraction, takeWhile_digits ascii stop, more, Bool.false_eq_true, if_false,
    List.drop_left]

theorem readFraction_none (stop : rest.head? ≠ some ('.' : CodePoint)) : readFraction rest = ([], rest) := by
  unfold readFraction
  split
  · exact absurd rfl stop
  · rfl

theorem readExponent_signed (ascii : ∀ c ∈ size, c.isDigit = true) (more : size ≠ [])
    (stop : NoDigit rest) :
    readExponent ('e' :: (if negative then '-' else '+') :: (size ++ rest)) =
      (some (if negative then -(numberOf size : Int) else numberOf size), rest) := by
  have some : size.isEmpty = false := by simp [more]
  cases negative <;>
    simp [readExponent, takeWhile_digits ascii stop, some]

theorem readExponent_none (stop : rest.head? ≠ some ('e' : CodePoint) ∧ rest.head? ≠ some ('E' : CodePoint)) :
    readExponent rest = (none, rest) := by
  cases rest with
  | nil => rfl
  | cons c rest =>
    have apart : (decide (c = 'e') || decide (c = 'E')) = false := by simpa using stop
    simp only [readExponent, apart, Bool.false_eq_true, if_false]

/-- The digits of a number before the point. -/
structure IsWhole (whole : Text) : Prop where
  ascii : ∀ c ∈ whole, c.isDigit = true
  some : whole ≠ []
  lead : ∀ t, whole = ('0' : CodePoint) :: t → t = []

theorem isWhole_zero : IsWhole ['0'] where
  ascii := List.forall_mem_singleton.mpr rfl
  some := List.cons_ne_nil _ _
  lead := fun _ same => (List.cons.inj same).2.symm

/-- The digits of a number before the point, as they are read. -/
def wholePart (t : Text) : Text :=
  match t.takeWhile CodePoint.isDigit with
  | '0' :: _ => ['0']
  | ds => ds

theorem IsWhole.read (sound : IsWhole whole) (stop : NoDigit u) :
    wholePart (whole ++ u) = whole := by
  rw [wholePart, takeWhile_digits sound.ascii stop]
  split
  · rw [sound.lead _ rfl]
  · rfl

theorem readNumber_parts (negative : Bool) (t : Text) : readNumber negative t =
    if (wholePart t).isEmpty then .error .malformed
    else
      let (fraction, v) := readFraction (t.drop (wholePart t).length)
      let (exponent, w) := readExponent v
      if fraction.isEmpty && exponent.isNone then
        match Text.number? (wholePart t) with
        | some n => .ok (.int (if negative then -n else n), w)
        | none => .error .numberTooLong
      else
        .ok (.float (.ofDecimal negative (numberOf (wholePart t ++ fraction))
          (exponent.getD 0 - fraction.length)), w) := rfl

theorem readNumber_whole (sound : IsWhole whole) (stop : NoDigit u)
    (fractional : readFraction u = (fraction, v)) (raised : readExponent v = (exponent, w)) :
    readNumber negative (whole ++ u) =
      if fraction.isEmpty && exponent.isNone then
        match Text.number? whole with
        | some n => .ok (.int (if negative then -n else n), w)
        | none => .error .numberTooLong
      else
        .ok (.float (.ofDecimal negative (numberOf (whole ++ fraction))
          (exponent.getD 0 - fraction.length)), w) := by
  have some : whole.isEmpty = false := by simp [sound.some]
  rw [readNumber_parts, sound.read stop, some, List.drop_left, fractional]
  simp only [raised, Bool.false_eq_true, if_false]

/-- Digits with a point or an exponent behind them are a floating-point number. -/
theorem readNumber_float (sound : IsWhole whole) (stop : NoDigit u)
    (fractional : readFraction u = (fraction, v))
    (raised : readExponent v = (exponent, w)) (float : fraction ≠ [] ∨ exponent ≠ none) :
    readNumber negative (whole ++ u) =
      .ok (.float (.ofDecimal negative (numberOf (whole ++ fraction))
        (exponent.getD 0 - fraction.length)), w) := by
  rw [readNumber_whole negative sound stop fractional raised, if_neg]
  rcases float with some | some
  · simp [some]
  · simp [Option.isNone_iff_eq_none, some]

theorem readNumber_int (sound : IsWhole whole) (stop : NoNumber rest) :
    readNumber negative (whole ++ rest) =
      match Text.number? whole with
      | some n => .ok (.int (if negative then -n else n), rest)
      | none => .error .numberTooLong :=
  readNumber_whole negative sound stop.digit (readFraction_none stop.point)
    (readExponent_none stop.exponent)

theorem isWhole_cons {c : CodePoint} (ascii : ∀ x ∈ c :: u, x.isDigit = true) (lead : c ≠ '0') :
    IsWhole (c :: u) where
  ascii := ascii
  some := List.cons_ne_nil _ _
  lead := fun _ same => absurd (List.cons.inj same).1 lead

theorem noDigit_point (t : Text) : NoDigit ('.' :: t) := by
  rintro c ⟨⟩
  decide

theorem noDigit_exponent (t : Text) : NoDigit ('e' :: t) := by
  rintro c ⟨⟩
  decide

theorem readNumber_point (sound : IsWhole whole) (ascii : ∀ c ∈ fraction, c.isDigit = true)
    (some : fraction ≠ []) (stop : NoNumber rest) :
    readNumber negative (whole ++ ('.' : CodePoint) :: (fraction ++ rest)) =
      .ok (.float (.ofDecimal negative (numberOf (whole ++ fraction)) (0 - fraction.length)), rest) :=
  readNumber_float negative sound (noDigit_point _) (readFraction_point ascii some stop.digit)
    (readExponent_none stop.exponent) (Or.inl some)

section
variable {c : CodePoint} {t : Text}

/-- A number below one: the point stands in front of the digits. -/
theorem readNumber_small (ascii : ∀ x ∈ c :: t, x.isDigit = true) (stop : NoNumber rest) (k : ℕ) :
    readNumber negative (('0' : CodePoint) :: '.' :: (List.replicate k ('0' : CodePoint) ++ c :: t) ++ rest) =
      .ok (.float (.ofDecimal negative (numberOf (c :: t)) (0 - (k + (t.length + 1) : ℕ))), rest) := by
  have all : ∀ x ∈ List.replicate k ('0' : CodePoint) ++ c :: t, x.isDigit = true := by
    intro x member
    rcases List.mem_append.mp member with zeros | other
    · rw [List.eq_of_mem_replicate zeros]
      decide
    · exact ascii x other
  have value : numberOf ((['0'] : Text) ++ (List.replicate k ('0' : CodePoint) ++ c :: t)) =
      numberOf (c :: t) := by
    rw [Text.numberOf_append, Text.numberOf_append, Text.numberOf_zeros]
    simp [numberOf, Text.digitValue?, CodePoint.isDigit]
  have read := readNumber_point negative isWhole_zero all (by simp) stop
  rw [value, List.length_append, List.length_replicate, List.length_cons] at read
  exact read

/-- A whole number: zeros and the point stand behind the digits. -/
theorem readNumber_large (ascii : ∀ x ∈ c :: t, x.isDigit = true) (lead : c ≠ '0')
    (stop : NoNumber rest) (k : ℕ) :
    readNumber negative (c :: t ++ List.replicate k ('0' : CodePoint) ++ (['.', '0'] : Text) ++ rest) =
      .ok (.float (.ofDecimal negative (numberOf (c :: t) * 10 ^ (k + 1)) (0 - (1 : ℕ))), rest) := by
  have all : ∀ x ∈ c :: (t ++ List.replicate k ('0' : CodePoint)), x.isDigit = true := by
    intro x member
    rcases List.mem_append.mp (List.cons_append ▸ member) with other | zeros
    · exact ascii x other
    · rw [List.eq_of_mem_replicate zeros]
      decide
  have value :
      numberOf (c :: (t ++ List.replicate k ('0' : CodePoint)) ++ (['0'] : Text)) =
        numberOf (c :: t) * 10 ^ (k + 1) := by
    rw [← List.cons_append, Text.numberOf_append, Text.numberOf_append, Text.numberOf_zeros,
      List.length_replicate]
    simp [numberOf, Text.digitValue?, CodePoint.isDigit, Nat.pow_succ, Nat.mul_assoc]
  have read := readNumber_point negative (isWhole_cons all lead) isWhole_zero.ascii isWhole_zero.some
    stop
  rw [value] at read
  simpa using read

/-- The point stands between digits. -/
theorem readNumber_mixed (ascii : ∀ x ∈ c :: t, x.isDigit = true) (lead : c ≠ '0')
    (stop : NoNumber rest) {k : ℕ} (inside : k < t.length) :
    readNumber negative ((c :: t).take (k + 1) ++ ('.' : CodePoint) :: (c :: t).drop (k + 1) ++ rest) =
      .ok (.float (.ofDecimal negative (numberOf (c :: t)) (0 - (t.length - k : ℕ))), rest) := by
  have front : ∀ x ∈ c :: t.take k, x.isDigit = true := by
    intro x member
    apply ascii
    rcases List.mem_cons.mp member with rfl | other
    · exact List.mem_cons_self
    · exact List.mem_cons_of_mem c (List.mem_of_mem_take other)
  have behind : ∀ x ∈ t.drop k, x.isDigit = true := fun x member =>
    ascii x (List.mem_cons_of_mem c (List.mem_of_mem_drop member))
  have some : t.drop k ≠ [] := by simp [inside]
  have value : c :: t.take k ++ t.drop k = c :: t :=
    congrArg (List.cons c) (List.take_append_drop k t)
  have read := readNumber_point negative (isWhole_cons front lead) behind some stop
  rw [value, List.length_drop] at read
  simpa using read

theorem signed_natAbs (n : Int) : (if decide (n < 0) then -(n.natAbs : Int) else n.natAbs) = n := by
  by_cases below : n < 0
  · simp only [below, decide_true, if_true]
    omega
  · simp only [below, decide_false, Bool.false_eq_true, if_false]
    omega

/-- A number with at least two digits. -/
def twoDigits (n : ℕ) : Text :=
  if (digits n).length < 2 then '0' :: digits n else digits n

theorem twoDigits_ascii (n : ℕ) : ∀ c ∈ twoDigits n, c.isDigit = true := by
  intro c member
  rw [twoDigits] at member
  split at member
  · rcases List.mem_cons.mp member with rfl | other
    · decide
    · exact digits_ascii c other
  · exact digits_ascii c member

theorem twoDigits_ne_nil (n : ℕ) : twoDigits n ≠ [] := by
  rw [twoDigits]
  split
  · exact List.cons_ne_nil _ _
  · exact digits_ne_nil n

theorem numberOf_twoDigits (n : ℕ) : numberOf (twoDigits n) = n := by
  rw [twoDigits]
  split
  · rw [Text.numberOf_cons, Text.numberOf_digits]
    simp [Text.digitValue?, CodePoint.isDigit]
  · exact Text.numberOf_digits n

/-- The exponent that a number is written with. -/
def exponentText (e : Int) : Text :=
  (if e < 0 then '-' else '+') :: twoDigits e.natAbs

theorem readExponent_write (e : Int) (stop : NoDigit rest) :
    readExponent ('e' :: (exponentText e ++ rest)) = (some e, rest) := by
  have read := readExponent_signed (decide (e < 0)) (twoDigits_ascii e.natAbs)
    (twoDigits_ne_nil e.natAbs) stop
  rw [numberOf_twoDigits, signed_natAbs] at read
  simpa [exponentText] using read

/-- The exponent stands behind all digits, and the point behind the first of several. -/
theorem readNumber_raised (ascii : ∀ x ∈ c :: t, x.isDigit = true) (lead : c ≠ '0')
    (stop : NoNumber rest) (e : Int) :
    readNumber negative ((match c :: t with
        | [] => []
        | [x] => x :: 'e' :: exponentText e
        | x :: xs => x :: '.' :: xs ++ ('e' : CodePoint) :: exponentText e) ++ rest) =
      .ok (.float (.ofDecimal negative (numberOf (c :: t)) (e - t.length)), rest) := by
  have single : IsWhole [c] := isWhole_cons (fun x member => ascii x (by simp_all)) lead
  have raised := readExponent_write e stop.digit
  cases t with
  | nil =>
    have none :
        readFraction ('e' :: (exponentText e ++ rest)) =
          ([], ('e' : CodePoint) :: (exponentText e ++ rest)) :=
      readFraction_none (by simp)
    exact readNumber_float negative single (noDigit_exponent _) none raised
      (Or.inr (Option.some_ne_none e))
  | cons x xs =>
    have behind : ∀ y ∈ x :: xs, y.isDigit = true := fun y member =>
      ascii y (List.mem_cons_of_mem c member)
    have fractional :=
      readFraction_point behind (List.cons_ne_nil x xs) (noDigit_exponent (exponentText e ++ rest))
    have read := readNumber_float negative single (noDigit_point _) fractional raised
      (Or.inl (List.cons_ne_nil x xs))
    simpa using read

end

/-- What is written for digits is read as their worth. -/
theorem readNumber_write (some : d.number ≠ 0) (stop : NoNumber rest) :
    ∃ (n : ℕ) (e : ℤ), n ≠ 0 ∧ (n : ℚ) * 10 ^ e = d.worth ∧
      readNumber negative (d.write ++ rest) = .ok (.float (.ofDecimal negative n e), rest) := by
  obtain ⟨c, t, shape⟩ := List.exists_cons_of_ne_nil (digits_ne_nil d.number)
  have lead := Text.digits_first some shape
  have ascii : ∀ x ∈ c :: t, x.isDigit = true := fun x member => digits_ascii x (shape ▸ member)
  have value : numberOf (c :: t) = d.number := shape ▸ Text.numberOf_digits d.number
  have worth : ∀ e : ℤ, e = d.point - (t.length + 1) → (d.number : ℚ) * 10 ^ e = d.worth := by
    rintro e rfl
    rw [Digits.worth, shape, List.length_cons]
    push_cast
    rfl
  rw [Digits.write, shape]
  dsimp only
  split
  · split
    · rename_i small
      have read := readNumber_small negative ascii stop (-d.point).toNat
      rw [value] at read
      refine ⟨_, _, some, worth _ ?_, read⟩
      omega
    · split
      · rename_i large
        rw [List.length_cons] at large ⊢
        have read := readNumber_large negative ascii lead stop
          (d.point - (t.length + 1 : ℕ)).toNat
        rw [value] at read
        refine ⟨_, _, Nat.mul_ne_zero some (by positivity), ?_, read⟩
        rw [← worth _ rfl]
        push_cast
        rw [mul_assoc, ← zpow_natCast, ← zpow_add₀ (by norm_num)]
        congr 2
        push_cast
        omega
      · rename_i above few
        rw [List.length_cons] at few
        obtain ⟨k, places⟩ : ∃ k : ℕ, d.point.toNat = k + 1 := ⟨d.point.toNat - 1, by omega⟩
        have read := readNumber_mixed negative (k := k) ascii lead stop (by omega)
        rw [value] at read
        rw [places]
        refine ⟨_, _, some, worth _ ?_, read⟩
        omega
  · have read := readNumber_raised negative ascii lead stop (d.point - 1)
    rw [value] at read
    refine ⟨_, _, some, worth _ ?_, read⟩
    omega

/-- What is read as a number starts with a digit. -/
theorem digit_of_readNumber {negative : Bool} {found : Json × Text}
    (read : readNumber negative u = .ok found) :
    ∃ c t, u = c :: t ∧ c.isDigit = true := by
  cases u with
  | nil => contradiction
  | cons c t =>
    refine ⟨c, t, rfl, ?_⟩
    by_contra other
    have none : (c :: t).takeWhile CodePoint.isDigit = [] := by simp [other]
    simp [readNumber, none] at read

theorem findSome?_words {t : Text} (none : ∀ entry ∈ words, Text.after? entry.1 t = none) :
    words.findSome? (fun (word, value) => (Text.after? word t).map fun rest => (value, rest)) =
      .none := by
  rw [List.findSome?_eq_none_iff]
  intro entry known
  exact congrArg (Option.map fun rest => (entry.2, rest)) (none entry known)

/-- No word starts as a number does. -/
theorem readScalar_digit {c : CodePoint} (digit : c.isDigit = true) (t : Text) :
    readScalar (c :: t) = readNumber false (c :: t) := by
  have apart : ∀ x : CodePoint, x.isDigit = false → x ≠ c := by
    rintro x other rfl
    simp [digit] at other
  have none : ∀ entry ∈ words, Text.after? entry.1 (c :: t) = none := by
    simp [words, Text.after?, apart 'n' rfl, apart 't' rfl, apart 'f' rfl, apart 'N' rfl,
      apart 'I' rfl, apart '-' rfl]
  rw [readScalar, findSome?_words none]
  · intro u same
    exact apart '"' rfl (List.cons.inj same).1.symm
  · intro u same
    exact apart '-' rfl (List.cons.inj same).1.symm

theorem readScalar_minus {c : CodePoint} (digit : c.isDigit = true) (t : Text) :
    readScalar ('-' :: c :: t) = readNumber true (c :: t) := by
  have apart : 'I' ≠ c := by
    rintro rfl
    contradiction
  have none : ∀ entry ∈ words, Text.after? entry.1 ('-' :: c :: t) = none := by
    simp [words, Text.after?, apart]
  rw [readScalar, findSome?_words none]

theorem readScalar_signed (digit : ∃ c t, u = c :: t ∧ c.isDigit = true) :
    readScalar ((if negative then (['-'] : Text) else []) ++ u) = readNumber negative u := by
  obtain ⟨c, t, rfl, first⟩ := digit
  cases negative with
  | true => exact readScalar_minus first t
  | false => exact readScalar_digit first t

theorem isWhole_digits (n : ℕ) : IsWhole (digits n) := by
  by_cases zero : n = 0
  · subst zero
    exact isWhole_zero
  · obtain ⟨c, t, shape⟩ := List.exists_cons_of_ne_nil (digits_ne_nil n)
    have ascii : ∀ x ∈ digits n, x.isDigit = true := digits_ascii
    rw [shape] at ascii ⊢
    exact isWhole_cons ascii (Text.digits_first zero shape)

theorem writeInt_eq (n : Int) :
    writeInt n = (if decide (n < 0) then (['-'] : Text) else []) ++ digits n.natAbs := by
  by_cases below : n < 0
  · simp [writeInt, below]
  · simp [writeInt, below]

/-- A whole number is read unless it has too many digits. -/
theorem readScalar_int (n : Int) (stop : NoNumber rest) :
    readScalar (writeInt n ++ rest) =
      if (digits n.natAbs).length ≤ Text.maxDigits then .ok (.int n, rest)
      else .error .numberTooLong := by
  have first : ∃ c t, digits n.natAbs ++ rest = c :: t ∧ c.isDigit = true := by
    obtain ⟨c, t, shape⟩ := List.exists_cons_of_ne_nil (digits_ne_nil n.natAbs)
    exact ⟨c, t ++ rest, by rw [shape, List.cons_append],
      digits_ascii c (shape ▸ List.mem_cons_self)⟩
  rw [writeInt_eq, List.append_assoc, readScalar_signed _ first,
    readNumber_int _ (isWhole_digits _) stop, Text.number?]
  by_cases short : (digits n.natAbs).length ≤ Text.maxDigits
  · simp only [short, if_true, Text.numberOf_digits, signed_natAbs]
  · simp only [short, if_false]

/-- A floating-point number is read as itself. -/
theorem readScalar_float {m : ℕ} {e : ℤ} (normal : IsNormal m e) (stop : NoNumber rest)
    (infinity noNumber : Text) :
    readScalar ((Binary64.finite negative m e).write infinity noNumber ++ rest) =
      .ok (.float (.finite negative m e), rest) := by
  by_cases zero : m = 0
  · have least : e = -1074 := normal.full.resolve_left (by omega)
    have read := readNumber_point negative isWhole_zero isWhole_zero.ascii isWhole_zero.some stop
    have nothing :
        Binary64.ofDecimal negative (numberOf ((['0'] : Text) ++ (['0'] : Text)))
          (0 - (['0'] : Text).length) =
        .finite negative 0 (-1074) := rfl
    rw [nothing] at read
    subst zero least
    rw [Binary64.write, if_pos rfl, List.append_assoc]
    exact (readScalar_signed negative (digit_of_readNumber read)).trans read
  · obtain ⟨d, some, nearest, written⟩ := write_finite normal zero negative infinity noNumber
    obtain ⟨n, e', number, worth, read⟩ := readNumber_write negative some stop
    rw [← worth] at nearest
    rw [ofDecimal_nearest negative number zero normal nearest] at read
    rw [written, List.append_assoc, readScalar_signed negative (digit_of_readNumber read), read]

end LabEditor.Json
