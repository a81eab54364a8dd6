/-! Code points of Unicode. A text may hold a half of a surrogate pair on its own: it can be compared,
cut and written as an escape like any character, but no encoding has bytes for it. -/
namespace LabEditor

/-- A character, or one half of a surrogate pair, which stands for no character by itself. -/
inductive CodePoint where
  | char (c : Char)
  | half (unit : Fin 0x800)
deriving DecidableEq, Inhabited, Repr

namespace CodePoint

instance : Coe Char CodePoint := ⟨char⟩

def toNat : CodePoint → Nat
  | char c => c.toNat
  | half unit => 0xd800 + unit

@[simp] theorem toNat_char (c : Char) : (char c).toNat = c.toNat := by
  rw [toNat]

def char? : CodePoint → Option Char
  | char c => some c
  | half _ => none

/-- The code point of a number below 110000. -/
def ofNat (n : Nat) : CodePoint :=
  if 0xd800 ≤ n && n < 0xe000 then half (Fin.ofNat 0x800 (n - 0xd800)) else char (Char.ofNat n)

def isDigit (c : CodePoint) : Bool :=
  0x30 ≤ c.toNat && c.toNat ≤ 0x39

def isUpper (c : CodePoint) : Bool :=
  0x41 ≤ c.toNat && c.toNat ≤ 0x5a

def isLower (c : CodePoint) : Bool :=
  0x61 ≤ c.toNat && c.toNat ≤ 0x7a

def isAlpha (c : CodePoint) : Bool :=
  c.isUpper || c.isLower

def isAlphanum (c : CodePoint) : Bool :=
  c.isAlpha || c.isDigit

/-- Capital letters of ASCII in lower case. -/
def toLower (c : CodePoint) : CodePoint :=
  if c.isUpper then char (Char.ofNat (c.toNat + 0x20)) else c

instance : LE CodePoint := ⟨fun c d => c.toNat ≤ d.toNat⟩

instance (c d : CodePoint) : Decidable (c ≤ d) := inferInstanceAs (Decidable (c.toNat ≤ d.toNat))

end CodePoint

end LabEditor
