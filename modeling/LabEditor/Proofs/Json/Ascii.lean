import LabEditor.Json.Writer
import LabEditor.Proofs.Text.Ascii

/-! Written JSON is ASCII, whatever the texts in it are: all other characters are escaped. -/
namespace LabEditor

namespace Text
@[simp] theorem isAscii_hexDigits (width n : Nat) : IsAscii (hexDigits width n) := by
  induction width generalizing n with
  | zero => exact isAscii_nil
  | succ width ih =>
    have digit : ∀ k < 16, (Nat.digitChar k).toNat < 0x80 := by decide
    rw [hexDigits, isAscii_append]
    exact ⟨ih _, isAscii_cons.mpr ⟨digit _ (Nat.mod_lt n (by decide)), isAscii_nil⟩⟩

end Text

open Text (IsAscii)

namespace Decimal

theorem isAscii_write_digits (d : Digits) : IsAscii d.write := by
  have digits : IsAscii (Text.digits d.number) := Text.isAscii_digits d.number
  rw [Digits.write]
  dsimp only
  split
  · split
    · simp
    · split
      · simp
      · simp [digits.of_subset (List.take_subset _ _), digits.of_subset (List.drop_subset _ _)]
  · have exponent : IsAscii ((if d.point - 1 < 0 then '-' else '+') ::
        if (Text.digits (d.point - 1).natAbs).length < 2 then '0' :: Text.digits (d.point - 1).natAbs
        else Text.digits (d.point - 1).natAbs) := by
      rw [Text.isAscii_cons]
      constructor
      · split <;> decide
      · split <;> simp
    split
    · exact Text.isAscii_nil
    · rename_i x single
      rw [single] at digits
      simp_all
    · rename_i x xs _ several
      rw [several] at digits
      simp_all

theorem isAscii_write {infinity noNumber : Text} (first : IsAscii infinity)
    (second : IsAscii noNumber) (x : Binary64) : IsAscii (x.write infinity noNumber) := by
  have sign : ∀ negative : Bool, IsAscii (if negative then ['-'] else []) := by decide
  cases x with
  | finite negative mantissa exponent =>
    rw [Binary64.write, Text.isAscii_append]
    refine ⟨sign negative, ?_⟩
    split
    · decide
    · exact isAscii_write_digits _
  | infinite negative => exact Text.isAscii_append.mpr ⟨sign negative, first⟩
  | nan => exact second

end Decimal

namespace Json

theorem isAscii_escapedChar (c : CodePoint) : IsAscii (escapedChar c) := by
  unfold escapedChar
  repeat' split
  all_goals try decide
  · rename_i printable
    have range : 0x20 ≤ c.toNat ∧ c.toNat < 0x7f := by simpa using printable
    exact Text.isAscii_cons.mpr ⟨by omega, Text.isAscii_nil⟩
  · simp [escapedUnit]
  · simp [escapedUnit]

@[simp] theorem isAscii_writeText (t : Text) : IsAscii (writeText t) := by
  have inside : IsAscii (t.flatMap escapedChar) := by
    intro c member
    obtain ⟨d, _, written⟩ := List.mem_flatMap.mp member
    exact isAscii_escapedChar d c written
  simp [writeText, inside]

theorem isAscii_writeInt (n : Int) : IsAscii (writeInt n) := by
  rw [writeInt]
  split <;> simp

variable {layout : Layout}

/-- What stands between the items of a layout is ASCII. -/
structure Layout.IsAscii (layout : Layout) : Prop where
  lineBreak : ∀ depth, Text.IsAscii (layout.lineBreak depth)
  colon : Text.IsAscii layout.colon

theorem isAscii_indentedLayout : indentedLayout.IsAscii where
  lineBreak depth := by simp [indentedLayout]
  colon := by decide

mutual

theorem isAscii_writeAt (plain : layout.IsAscii) (depth : Nat) :
    (value : Json) → Text.IsAscii (writeAt layout depth value)
  | .null => by rw [writeAt]; decide
  | .bool true => by rw [writeAt]; decide
  | .bool false => by rw [writeAt]; decide
  | .int n => isAscii_writeInt n
  | .float x => Decimal.isAscii_write (by decide) (by decide) x
  | .str t => isAscii_writeText t
  | .arr [] => by rw [writeAt]; decide
  | .arr (item :: items) => by
    have head := isAscii_writeAt plain (depth + 1) item
    have tail := isAscii_writeItems plain (depth + 1) items
    simp [writeAt, plain.lineBreak, head, tail]
  | .obj [] => by rw [writeAt]; decide
  | .obj ((name, value) :: members) => by
    have head := isAscii_writeAt plain (depth + 1) value
    have tail := isAscii_writeMembers plain (depth + 1) members
    simp [writeAt, plain.lineBreak, plain.colon, head, tail]

theorem isAscii_writeItems (plain : layout.IsAscii) (depth : Nat) :
    (items : List Json) → Text.IsAscii (writeItems layout depth items)
  | [] => Text.isAscii_nil
  | item :: items => by
    have head := isAscii_writeAt plain depth item
    have tail := isAscii_writeItems plain depth items
    simp [writeItems, plain.lineBreak, head, tail]

theorem isAscii_writeMembers (plain : layout.IsAscii) (depth : Nat) :
    (members : List (Text × Json)) → Text.IsAscii (writeMembers layout depth members)
  | [] => Text.isAscii_nil
  | (name, value) :: members => by
    have head := isAscii_writeAt plain depth value
    have tail := isAscii_writeMembers plain depth members
    simp [writeMembers, plain.lineBreak, plain.colon, head, tail]

end

theorem isAscii_indented (value : Json) : Text.IsAscii value.indented :=
  isAscii_writeAt isAscii_indentedLayout 0 value

end Json
end LabEditor
