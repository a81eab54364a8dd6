import LabEditor.Text.Case
import LabEditor.Proofs.Text.Ascii
import Mathlib.Data.List.Forall2

/-! Words in any case. What counts as a letter of ASCII without being one, such as the dotless i, does
not become that letter in lower case; so a word is found in lower case exactly if it is spelled in
ASCII. -/
namespace LabEditor.Text
variable {s t word spelled : Text} {c d : CodePoint}

theorem toLower_beyond (beyond : 0x80 ≤ c.toNat) : c.toLower = c := by
  have small : ¬ c.isUpper = true := by
    simp only [CodePoint.isUpper, Bool.and_eq_true, decide_eq_true_eq]
    omega
  exact if_neg small

/-- In lower case a letter is there whatever stands around it, except for the sigma. -/
theorem lowerChar_subset_lower (apart : c ≠ 'Σ') (member : c ∈ t) : lowerChar c ⊆ lower t := by
  suffices ∀ cased, lowerChar c ⊆ lowerFrom cased t from this false
  intro cased
  induction t generalizing cased with
  | nil => contradiction
  | cons d t ih =>
    rw [lowerFrom]
    rcases List.mem_cons.mp member with rfl | later
    · rw [if_neg apart]
      exact List.subset_append_left _ _
    · exact List.Subset.trans (ih later _) (List.subset_append_right _ _)

theorem lower_ascii (ascii : IsAscii t) : lower t = t.map CodePoint.toLower := by
  suffices ∀ cased, lowerFrom cased t = t.map CodePoint.toLower from this false
  intro cased
  induction t generalizing cased with
  | nil => rfl
  | cons c t ih =>
    obtain ⟨first, others⟩ := isAscii_cons.mp ascii
    have apart : c ≠ 'Σ' := by
      rintro rfl
      exact absurd first (by decide)
    rw [lowerFrom, if_neg apart, ih others, lowerChar, if_pos first]
    rfl

/-- The small letter that a character counts as. -/
def letter (c : CodePoint) : CodePoint :=
  if c = 'İ' ∨ c = 'ı' then 'i' else if c = 'ſ' then 's' else if c = '\u212a' then 'k' else c.toLower

/-- A word in small letters of ASCII; the letter k is left out, because the sign of the kelvin is a k
in lower case. -/
def IsSmall (word : Text) : Prop :=
  ∀ c ∈ word, c.toNat < 0x80 ∧ c.toLower = c ∧ c ≠ 'k'

instance : DecidablePred IsSmall := fun word =>
  List.decidableBAll (fun c : CodePoint => c.toNat < 0x80 ∧ c.toLower = c ∧ c ≠ 'k') word

theorem letter_ascii (ascii : c.toNat < 0x80) : letter c = c.toLower := by
  have apart : ∀ d : CodePoint, 0x80 ≤ d.toNat → c ≠ d := by
    rintro d beyond rfl
    omega
  rw [letter, if_neg (not_or.mpr ⟨apart 'İ' (by decide), apart 'ı' (by decide)⟩),
    if_neg (apart 'ſ' (by decide)), if_neg (apart '\u212a' (by decide))]

theorem letter_of_same (ascii : c.toNat < 0x80) (small : c.toLower = c)
    (same : sameLetter c d = true) : letter d = c := by
  simp only [sameLetter, Bool.or_eq_true, Bool.and_eq_true, beq_iff_eq] at same
  have plain (lower : d.toLower = c) : letter d = c := by
    by_cases beyond : d.toNat < 0x80
    · rw [letter_ascii beyond, lower]
    · rw [toLower_beyond (Nat.le_of_not_lt beyond)] at lower
      exact absurd (lower ▸ ascii) beyond
  rcases same with (((rfl | lower) | ⟨rfl, rfl | rfl⟩) | ⟨rfl, rfl⟩) | ⟨rfl, rfl⟩
  · exact plain small
  · exact plain lower
  · decide
  · decide
  · decide
  · decide

theorem map_letter (small : IsSmall word)
    (same : List.Forall₂ (fun c d => sameLetter c d = true) word spelled) :
    spelled.map letter = word := by
  induction same with
  | nil => rfl
  | cons first _ ih =>
    obtain ⟨⟨ascii, lower, _⟩, others⟩ := List.forall_mem_cons.mp small
    rw [List.map_cons, letter_of_same ascii lower first, ih others]

/-- A word that is spelled in ASCII is found in lower case. -/
theorem lower_spelled (small : IsSmall word)
    (same : List.Forall₂ (fun c d => sameLetter c d = true) word spelled)
    (ascii : IsAscii spelled) : lower spelled = word := by
  rw [lower_ascii ascii, ← map_letter small same]
  exact List.map_congr_left fun c member => (letter_ascii (ascii c member)).symm

/-- The letters beyond ASCII that count as one of ASCII. -/
theorem odd_letter (beyond : 0x80 ≤ c.toNat) (ascii : (letter c).toNat < 0x80) :
    c = 'İ' ∨ c = 'ı' ∨ c = 'ſ' ∨ c = '\u212a' := by
  rw [letter] at ascii
  split_ifs at ascii with i long kelvin
  · exact i.imp_right Or.inl
  · exact Or.inr (Or.inr (Or.inl long))
  · exact Or.inr (Or.inr (Or.inr kelvin))
  · rw [toLower_beyond beyond] at ascii
    omega

/-- In lower case they leave something beyond ASCII, except for the sign of the kelvin. -/
theorem lowerChar_beyond (beyond : 0x80 ≤ c.toNat) (ascii : (letter c).toNat < 0x80)
    (kelvin : letter c ≠ 'k') : c ≠ 'Σ' ∧ ∃ d ∈ lowerChar c, 0x80 ≤ d.toNat := by
  rcases odd_letter beyond ascii with rfl | rfl | rfl | rfl
  · exact ⟨by decide, Char.ofNat 0x307, by decide, by decide⟩
  · exact ⟨by decide, 'ı', by decide, by decide⟩
  · exact ⟨by decide, 'ſ', by decide, by decide⟩
  · contradiction

/-- Lower case keeps what is spelled beyond ASCII there. -/
theorem isAscii_lower (small : IsSmall word)
    (same : List.Forall₂ (fun c d => sameLetter c d = true) word spelled) :
    IsAscii (lower spelled) ↔ IsAscii spelled := by
  constructor
  · intro ascii d member
    by_contra beyond
    have inWord : letter d ∈ word := map_letter small same ▸ List.mem_map_of_mem member
    obtain ⟨plain, _, kelvin⟩ := small _ inWord
    obtain ⟨apart, x, found, far⟩ := lowerChar_beyond (Nat.le_of_not_lt beyond) plain kelvin
    exact ascii.not_mem far (lowerChar_subset_lower apart member found)
  · intro ascii
    rw [lower_spelled small same ascii]
    exact fun c member => (small c member).1

end LabEditor.Text
