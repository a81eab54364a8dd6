import LabEditor.Proofs.Token

/-! Texts of ASCII characters only. -/
namespace LabEditor.Text

variable {s t : Text} {c : CodePoint}

def IsAscii (t : Text) : Prop :=
  ∀ c ∈ t, c.toNat < 0x80

instance : DecidablePred IsAscii := fun t =>
  List.decidableBAll (fun c : CodePoint => c.toNat < 0x80) t

@[simp] theorem isAscii_nil : IsAscii [] :=
  List.forall_mem_nil _

@[simp] theorem isAscii_cons : IsAscii (c :: t) ↔ c.toNat < 0x80 ∧ IsAscii t :=
  List.forall_mem_cons

@[simp] theorem isAscii_append : IsAscii (s ++ t) ↔ IsAscii s ∧ IsAscii t :=
  List.forall_mem_append

@[simp] theorem isAscii_replicate (ascii : c.toNat < 0x80) (n : Nat) :
    IsAscii (List.replicate n c) := by
  intro d member
  rwa [List.eq_of_mem_replicate member]

theorem IsAscii.of_subset (ascii : IsAscii t) (part : s ⊆ t) : IsAscii s :=
  fun c member => ascii c (part member)

theorem IsAscii.not_mem (ascii : IsAscii t) (beyond : 0x80 ≤ c.toNat) : c ∉ t :=
  fun member => Nat.not_lt_of_le beyond (ascii c member)

@[simp] theorem isAscii_digits (n : Nat) : IsAscii (digits n) := by
  intro c member
  have range : 48 ≤ c.toNat ∧ c.toNat ≤ 57 := by
    simpa [CodePoint.isDigit] using digits_ascii c member
  omega

end LabEditor.Text
