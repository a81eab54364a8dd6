import LabEditor.Proofs.Text.Ascii
import LabEditor.Proofs.Text.Splitting
import LabEditor.Proofs.Text.Trimming
import Mathlib.Data.List.Chain

/-! Texts in which a character is never written as its two halves. Parts of such texts are such, and so
are texts of them with ASCII between. -/
namespace LabEditor

namespace CodePoint

/-- Whether a number is that of a first half of a pair. -/
def IsHigh (n : Nat) : Prop :=
  0xd800 ≤ n ∧ n < 0xdc00

/-- Whether a number is that of a second half of a pair. -/
def IsLow (n : Nat) : Prop :=
  0xdc00 ≤ n ∧ n < 0xe000

instance : DecidablePred IsHigh := fun _ => inferInstanceAs (Decidable (_ ∧ _))

instance : DecidablePred IsLow := fun _ => inferInstanceAs (Decidable (_ ∧ _))

end CodePoint

/-- The halves of a pair never stand behind each other: what is one character is written as one. -/
def Text.Joined (t : Text) : Prop :=
  t.IsChain fun c d => CodePoint.IsHigh c.toNat → ¬ CodePoint.IsLow d.toNat

instance : DecidablePred Text.Joined := fun t =>
  inferInstanceAs (Decidable (t.IsChain _))

namespace Text.Joined
open CodePoint (IsHigh IsLow toNat_char)
variable {s t : Text} {c d : CodePoint}

theorem nil : Joined [] :=
  List.IsChain.nil

theorem part (joined : t.Joined) (inside : s <:+: t) : s.Joined :=
  List.IsChain.infix joined inside

theorem of_ascii (ascii : c.toNat < 0x80) : ¬ IsHigh c.toNat ∧ ¬ IsLow c.toNat := by
  simp only [IsHigh, IsLow]
  omega

/-- What is made of characters holds no halves at all. -/
@[simp] theorem of_chars (s : List Char) : Joined (s.map .char) := by
  refine List.Pairwise.isChain (List.pairwise_of_forall_mem_list fun c known d _ high => ?_)
  obtain ⟨c, _, rfl⟩ := List.mem_map.mp known
  rw [toNat_char] at high
  rcases c.valid with low | beyond
  · exact absurd low (Nat.not_lt_of_le high.1)
  · exact absurd high.2 (Nat.not_lt_of_lt (Nat.lt_trans (by decide) beyond.1))

theorem ascii (ascii : IsAscii t) : t.Joined := by
  refine List.Pairwise.isChain (List.pairwise_of_forall_mem_list fun c known d _ high => ?_)
  exact absurd high (of_ascii (ascii c known)).1

/-- A character of ASCII between two texts keeps the halves apart. -/
theorem append (left : s.Joined) (right : t.Joined) (ascii : c.toNat < 0x80) : (s ++ c :: t).Joined := by
  obtain ⟨high, low⟩ := of_ascii ascii
  refine List.isChain_append.mpr ⟨left, ?_, ?_⟩
  · cases t with
    | nil => exact List.isChain_singleton c
    | cons d t => exact List.isChain_cons_cons.mpr ⟨fun first => absurd first high, right⟩
  · rintro d _ _ ⟨⟩ _
    exact low

theorem glue {ws : List Text} (each : ∀ w ∈ ws, w.Joined) (ascii : c.toNat < 0x80) :
    (Text.glue c ws).Joined := by
  induction ws with
  | nil => exact nil
  | cons w ws ih =>
    obtain ⟨first, rest⟩ := List.forall_mem_cons.mp each
    cases ws with
    | nil => exact first
    | cons v vs => exact first.append (ih rest) ascii

theorem trim (joined : t.Joined) : (Text.trim t).Joined :=
  joined.part ((dropEndWhile_isPrefix isBlank (trimStart t)).isInfix.trans (trimStart_suffix t).isInfix)

/-- Other characters of ASCII may be put in place of some. -/
theorem map {f : CodePoint → CodePoint} (joined : t.Joined)
    (other : ∀ c, f c = c ∨ (f c).toNat < 0x80) : Text.Joined (t.map f) := by
  refine (List.isChain_map f).mpr (List.IsChain.imp ?_ joined)
  intro c d apart high
  rcases other c with same | ascii
  · rcases other d with same' | ascii
    · rw [same] at high
      rw [same']
      exact apart high
    · exact (of_ascii ascii).2
  · exact absurd high (of_ascii ascii).1

end Text.Joined

end LabEditor
