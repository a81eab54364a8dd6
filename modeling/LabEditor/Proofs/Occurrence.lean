import LabEditor.Proofs.Text.Splitting
import LabEditor.Proofs.Token

/-! The tokens that a text holds, wherever they come from. A scan finds each of them, no matter what
else the text holds, and those that are written into a text are found beside its own. -/
namespace LabEditor
namespace TokenMarks
variable {marks : TokenMarks} {s t front behind : Text} {c : CodePoint}

/-- The digits of all tokens in a text. -/
def found (marks : TokenMarks) : Text → List Text
  | [] => []
  | c :: t => ((marks.read? (c :: t)).map Prod.fst).toList ++ found marks t

/-- Marks that cannot be taken for digits or for each other, so that no two tokens overlap. -/
structure Distinct (marks : TokenMarks) : Prop where
  opening : Text.isDigit marks.opening = false
  closing : Text.isDigit marks.closing = false
  apart : marks.opening ≠ marks.closing

/-- A character behind which no token goes on. -/
def Breaks (marks : TokenMarks) (c : CodePoint) : Prop :=
  Text.isDigit c = false ∧ c ≠ marks.closing

instance (marks : TokenMarks) : DecidablePred marks.Breaks := fun c =>
  inferInstanceAs (Decidable (Text.isDigit c = false ∧ c ≠ marks.closing))

theorem found_cons (marks : TokenMarks) (c : CodePoint) (t : Text) :
    marks.found (c :: t) = ((marks.read? (c :: t)).map Prod.fst).toList ++ marks.found t :=
  rfl

theorem found_skip (free : marks.opening ∉ s) (t : Text) :
    marks.found (s ++ t) = marks.found t := by
  induction s with
  | nil => rfl
  | cons c s ih =>
    obtain ⟨first, rest⟩ := not_or.mp (List.mem_cons.not.mp free)
    rw [List.cons_append, found_cons, read?_plain (Ne.symm first), ih rest]
    rfl

theorem found_free (free : marks.opening ∉ t) : marks.found t = [] := by
  have skipped := found_skip free []
  rwa [List.append_nil] at skipped

namespace Distinct

/-- Behind the mark that opens it, a token holds nothing that another one could begin with. -/
theorem found_read (distinct : marks.Distinct) {digits rest : Text}
    (read : marks.read? t = some (digits, rest)) : marks.found t = digits :: marks.found rest := by
  obtain ⟨rfl, _, all⟩ := (read?_eq_some distinct.closing).mp read
  have inside : marks.opening ∉ digits ++ [marks.closing] := by
    intro member
    rcases List.mem_append.mp member with digit | last
    · exact Bool.false_ne_true (distinct.opening.symm.trans (all _ digit))
    · exact distinct.apart (List.mem_singleton.mp last)
  rw [found_cons, read, List.append_cons, found_skip inside]
  rfl

theorem found_token (distinct : marks.Distinct) (n : Nat) (t : Text) :
    marks.found (marks.token n ++ t) = Text.digits n :: marks.found t :=
  distinct.found_read (read?_token distinct.closing n t)

theorem read?_fst (distinct : marks.Distinct) {digits : Text} :
    (marks.read? t).map Prod.fst = some digits ↔
      ∃ rest, t = marks.opening :: (digits ++ marks.closing :: rest) ∧ digits ≠ [] ∧
        ∀ c ∈ digits, Text.isDigit c = true := by
  simp only [Option.map_eq_some_iff, Prod.exists, read?_eq_some distinct.closing]
  constructor
  · rintro ⟨digits, rest, read, rfl⟩
    exact ⟨rest, read⟩
  · rintro ⟨rest, read⟩
    exact ⟨digits, rest, read, rfl⟩

/-- What stands behind such a character has no part in a token that begins before it. -/
theorem read?_break (distinct : marks.Distinct) (breaks : marks.Breaks c) (x : CodePoint)
    (s t : Text) :
    (marks.read? (x :: (s ++ c :: t))).map Prod.fst = (marks.read? (x :: s)).map Prod.fst := by
  apply Option.ext
  intro digits
  rw [distinct.read?_fst, distinct.read?_fst]
  constructor
  · rintro ⟨rest, whole, some, all⟩
    obtain ⟨rfl, tail⟩ := List.cons.inj whole
    rw [List.append_cons digits] at tail
    rcases List.append_eq_append_iff.mp tail with ⟨between, inside, later⟩ | ⟨more, rfl, _⟩
    · cases between with
      | nil => exact ⟨[], by rw [inside, List.append_nil], some, all⟩
      | cons d between =>
        obtain ⟨rfl, _⟩ := List.cons.inj later
        have member : c ∈ digits ++ [marks.closing] :=
          inside ▸ List.mem_append_right s List.mem_cons_self
        rcases List.mem_append.mp member with digit | last
        · exact absurd (breaks.1.symm.trans (all c digit)) Bool.false_ne_true
        · exact absurd (List.mem_singleton.mp last) breaks.2
    · exact ⟨more, by simp, some, all⟩
  · rintro ⟨rest, whole, some, all⟩
    obtain ⟨rfl, rfl⟩ := List.cons.inj whole
    exact ⟨rest ++ c :: t, by simp, some, all⟩

theorem found_break (distinct : marks.Distinct) (breaks : marks.Breaks c) (s t : Text) :
    marks.found (s ++ c :: t) = marks.found s ++ marks.found (c :: t) := by
  induction s with
  | nil => rfl
  | cons x s ih =>
    rw [List.cons_append, found_cons, distinct.read?_break breaks, ih, ← List.append_assoc,
      ← found_cons]

/-- A character that is part of no token parts the tokens before it from those behind it. -/
theorem found_apart (distinct : marks.Distinct) (breaks : marks.Breaks c)
    (plain : c ≠ marks.opening) (s t : Text) :
    marks.found (s ++ c :: t) = marks.found s ++ marks.found t := by
  have first : marks.opening ∉ [c] := List.mem_singleton.not.mpr plain.symm
  rw [distinct.found_break breaks]
  exact congrArg (marks.found s ++ ·) (found_skip first t)

theorem found_inside (distinct : marks.Distinct) (before : marks.opening ∉ front)
    (breaks : marks.Breaks c) (after : marks.opening ∉ c :: behind) (s : Text) :
    marks.found (front ++ (s ++ c :: behind)) = marks.found s := by
  rw [found_skip before, distinct.found_break breaks, found_free after, List.append_nil]

theorem found_glue (distinct : marks.Distinct) (breaks : marks.Breaks c)
    (plain : c ≠ marks.opening) (ts : List Text) :
    marks.found (Text.glue c ts) = ts.flatMap marks.found := by
  induction ts with
  | nil => rfl
  | cons t ts ih =>
    by_cases last : ts = []
    · rw [last, List.flatMap_singleton]
      rfl
    · rw [Text.glue_cons t last, distinct.found_apart breaks plain, ih, List.flatMap_cons]

theorem mem_found (distinct : marks.Distinct) {digits : Text} :
    digits ∈ marks.found t ↔ digits ≠ [] ∧ (∀ c ∈ digits, Text.isDigit c = true) ∧
      marks.opening :: (digits ++ [marks.closing]) <:+: t := by
  induction t with
  | nil => simp [found]
  | cons c t ih =>
    have first : digits ∈ ((marks.read? (c :: t)).map Prod.fst).toList ↔
        digits ≠ [] ∧ (∀ c ∈ digits, Text.isDigit c = true) ∧
          marks.opening :: (digits ++ [marks.closing]) <+: c :: t := by
      rw [Option.mem_toList, distinct.read?_fst]
      constructor
      · rintro ⟨rest, whole, some, all⟩
        exact ⟨some, all, rest, by simp [whole]⟩
      · rintro ⟨some, all, rest, whole⟩
        exact ⟨rest, by simp [← whole], some, all⟩
    rw [found_cons, List.mem_append, first, ih, List.infix_cons_iff]
    tauto

/-- A part of a text without tokens is without tokens. -/
theorem found_part (distinct : marks.Distinct) (part : s <:+: t) (none : marks.found t = []) :
    marks.found s = [] := by
  rw [List.eq_nil_iff_forall_not_mem] at none ⊢
  intro digits member
  obtain ⟨some, all, inside⟩ := distinct.mem_found.mp member
  exact none digits (distinct.mem_found.mpr ⟨some, all, inside.trans part⟩)

/-- The tokens written for numbers are found beside those of the text, which they keep apart just as
blanks would. -/
theorem found_spell (distinct : marks.Distinct) (blank : marks.Breaks ' ' ∧ ' ' ≠ marks.opening)
    (ps : List (Piece CodePoint Nat)) :
    (marks.found (marks.spell ps)).Perm (marks.found (Piece.writeAll (fun _ => [' ']) ps) ++
      (ps.filterMap Piece.value?).map Text.digits) := by
  -- The characters since the last number go along, for a token may have begun among them.
  suffices ∀ s : Text, (marks.found (s ++ marks.spell ps)).Perm
      (marks.found (s ++ Piece.writeAll (fun _ => ([' '] : Text)) ps) ++
        (ps.filterMap Piece.value?).map Text.digits) from this []
  have opens : marks.Breaks marks.opening := ⟨distinct.opening, distinct.apart⟩
  induction ps with
  | nil =>
    intro s
    simp [spell]
  | cons piece ps ih =>
    intro s
    cases piece with
    | plain c =>
      have later := ih (s ++ [c])
      rwa [List.append_assoc, List.append_assoc] at later
    | hit n =>
      have tokens : marks.found (s ++ (marks.token n ++ marks.spell ps)) =
          marks.found s ++ Text.digits n :: marks.found (marks.spell ps) := by
        rw [← distinct.found_token]
        exact distinct.found_break opens s _
      have blanks : marks.found (s ++ (' ' : CodePoint) :: Piece.writeAll (fun _ => [' ']) ps) =
          marks.found s ++ marks.found (Piece.writeAll (fun _ => [' ']) ps) :=
        distinct.found_apart blank.1 blank.2 s _
      have later := (ih []).cons (Text.digits n)
      have front := (later.trans List.perm_middle.symm).append_left (marks.found s)
      rw [← List.append_assoc, List.nil_append, List.nil_append] at front
      refine (List.Perm.of_eq tokens).trans (front.trans (List.Perm.of_eq ?_))
      exact congrArg (· ++ Text.digits n :: (ps.filterMap Piece.value?).map Text.digits) blanks.symm

end Distinct

/-- A pattern that reads the tokens, whatever it takes along with them, finds them all. -/
theorem values_of_scans {p : Pattern CodePoint Text} {before : Option CodePoint} {ps : List (Piece CodePoint Text)}
    (plain : ∀ before t, p before t = none → marks.read? t = none)
    (hit : ∀ before t digits rest, p before t = some (digits, rest) →
      marks.found t = digits :: marks.found rest)
    (scans : p.Scans before t ps) : ps.filterMap Piece.value? = marks.found t := by
  induction scans with
  | done => rfl
  | plain none _ ih =>
    rw [found_cons, plain _ _ none, ← ih]
    rfl
  | hit read _ ih =>
    rw [hit _ _ _ _ read, ← ih]
    rfl

end TokenMarks

section
variable {α : Type} {values : List α} {n : Nat}

theorem resolves_digits_iff :
    (∃ value, resolve values (Text.digits n) = .ok value) ↔
      n < values.length ∧ n < 10 ^ Text.maxDigits := by
  constructor
  · rintro ⟨value, resolved⟩
    have there := (List.getElem?_eq_some_iff.mp (of_resolve_digits resolved)).1
    refine ⟨there, ?_⟩
    by_contra large
    have long : ¬ (Text.digits n).length ≤ Text.maxDigits := by
      rw [Text.length_digits]
      exact (Nat.length_toDigits_le_iff (by decide) (by decide)).not.mpr large
    rw [resolve, Text.number?, if_neg long] at resolved
    contradiction
  · rintro ⟨there, small⟩
    exact ⟨_, resolve_digits small (List.getElem?_eq_getElem there)⟩

/-- All that a token of a text may stand for is there: there are numbers enough for what was set
aside, and a token that has been in the text before stands for some of it. -/
structure Restorable (values : List α) (strays : List Text) : Prop where
  few : values.length ≤ 10 ^ Text.maxDigits
  known : ∀ digits ∈ strays, ∃ value, resolve values digits = .ok value

theorem restorable_iff {tokens strays : List Text}
    (perm : tokens.Perm (strays ++ (List.range values.length).map Text.digits)) :
    (∀ digits ∈ tokens, ∃ value, resolve values digits = .ok value) ↔
      Restorable values strays := by
  have own : (∀ n < values.length, ∃ value, resolve values (Text.digits n) = .ok value) ↔
      values.length ≤ 10 ^ Text.maxDigits := by
    simp only [resolves_digits_iff]
    constructor
    · intro each
      by_contra many
      have below := (each (10 ^ Text.maxDigits) (Nat.lt_of_not_le many)).2
      exact Nat.lt_irrefl _ below
    · intro few n there
      exact ⟨there, Nat.lt_of_lt_of_le there few⟩
  have each : (∀ digits ∈ tokens, ∃ value, resolve values digits = .ok value) ↔
      (∀ digits ∈ strays, ∃ value, resolve values digits = .ok value) ∧
        ∀ n < values.length, ∃ value, resolve values (Text.digits n) = .ok value := by
    simp only [perm.mem_iff, List.mem_append, List.mem_map, List.mem_range]
    constructor
    · intro all
      exact ⟨fun digits stray => all digits (Or.inl stray),
        fun n there => all _ (Or.inr ⟨n, there, rfl⟩)⟩
    · rintro ⟨strays, numbers⟩ digits (stray | ⟨n, there, rfl⟩)
      · exact strays digits stray
      · exact numbers n there
  rw [each, own]
  exact ⟨fun both => ⟨both.2, both.1⟩, fun restorable => ⟨restorable.known, restorable.few⟩⟩

end
end LabEditor
