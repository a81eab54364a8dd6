import LabEditor.Text.Encoding

/-! Code points and their numbers, and the texts that can be encoded. -/
namespace LabEditor

namespace CodePoint

variable {c d : CodePoint}

theorem toNat_lt (c : CodePoint) : c.toNat < 0x110000 := by
  cases c with
  | char c =>
    rcases c.valid with low | high
    · exact Nat.lt_trans low (by decide)
    · exact high.2
  | half unit =>
    have small := unit.isLt
    simp only [toNat]
    omega

@[simp] theorem ofNat_toNat (c : CodePoint) : ofNat c.toNat = c := by
  cases c with
  | char c =>
    have valid : ¬(0xd800 ≤ c.toNat ∧ c.toNat < 0xe000) := by
      rcases c.valid with low | high
      · exact fun inside => Nat.not_lt_of_le inside.1 low
      · exact fun inside => Nat.not_lt_of_le (Nat.succ_le_of_lt high.1) inside.2
    have outside : ¬(decide (0xd800 ≤ c.toNat) && decide (c.toNat < 0xe000)) = true := by
      simpa using valid
    rw [ofNat, toNat, if_neg outside, Char.ofNat_toNat]
  | half unit =>
    have small := unit.isLt
    have inside : 0xd800 ≤ 0xd800 + unit.val ∧ 0xd800 + unit.val < 0xe000 := by omega
    simp [ofNat, toNat, inside]

theorem isDigit_char {c : Char} : (char c).isDigit = c.isDigit := rfl

theorem toNat_inj : c.toNat = d.toNat ↔ c = d := by
  constructor
  · intro same
    rw [← ofNat_toNat c, same, ofNat_toNat]
  · rintro rfl
    rfl

end CodePoint

namespace Text
variable {s t : Text}

theorem isEncodable_iff : t.isEncodable = true ↔ ∀ unit, .half unit ∉ t := by
  rw [isEncodable, List.all_eq_true]
  constructor
  · exact fun each unit member => absurd (each _ member) (by simp [CodePoint.char?])
  · intro free c member
    cases c with
    | char c => rfl
    | half unit => exact absurd member (free unit)

theorem isEncodable_of_subset (encodable : t.isEncodable = true) (part : s ⊆ t) : s.isEncodable = true :=
  isEncodable_iff.mpr fun unit member => isEncodable_iff.mp encodable unit (part member)

/-- What can be encoded can stand in a path. -/
theorem pathBytes?_of_encodable (encodable : t.isEncodable = true) : ∃ bytes, pathBytes? t = some bytes := by
  suffices ∃ points, t.mapM pathPoint? = some points by
    obtain ⟨points, each⟩ := this
    exact ⟨points.flatten, by rw [pathBytes?, each]; rfl⟩
  induction t with
  | nil => exact ⟨[], rfl⟩
  | cons c t ih =>
    obtain ⟨points, each⟩ := ih (isEncodable_of_subset encodable (List.subset_cons_self c t))
    cases c with
    | char c => exact ⟨pointBytes c :: points, by rw [List.mapM_cons, each]; rfl⟩
    | half unit => exact absurd List.mem_cons_self (isEncodable_iff.mp encodable unit)

end Text

end LabEditor
