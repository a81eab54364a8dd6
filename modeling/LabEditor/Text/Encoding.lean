import LabEditor.Text.Basic

/-! The Unicode encodings of texts as bytes. A text that begins with ASCII characters shows its
encoding by the zero bytes at its front. No encoding has a place for halves of surrogate pairs, but
some readers let them pass in the bytes that they would have. -/
namespace LabEditor.Text

/-- Whether the byte of the greatest worth comes first or last. -/
inductive ByteOrder where
  | greatestFirst
  | greatestLast
deriving DecidableEq, Repr

inductive Encoding where
  | utf8
  | utf16 (order : ByteOrder)
  | utf32 (order : ByteOrder)
deriving DecidableEq, Repr

/-- Whether a text can be encoded. -/
def isEncodable (t : Text) : Bool :=
  t.all fun c => c.char?.isSome

/-- The bytes of a code point in UTF-8; a half has those that its number would have. -/
def pointBytes : CodePoint → List UInt8
  | .char c => (String.singleton c).toUTF8.toList
  | .half unit => [0xed, .ofNat (0xa0 + unit / 0x40), .ofNat (0x80 + unit % 0x40)]

def utf8Bytes (t : Text) : List UInt8 :=
  t.flatMap pointBytes

/-- The number of bytes of a text in UTF-8. -/
def utf8Size (t : Text) : Nat :=
  (utf8Bytes t).length

/-- The bytes of a code point in the path of a file. Each byte beyond ASCII has a half that stands for
it where bytes are no UTF-8. -/
def pathPoint? : CodePoint → Option (List UInt8)
  | .char c => some (pointBytes c)
  | .half unit => if 0x480 ≤ unit.val && unit.val < 0x500 then some [.ofNat (unit - 0x400)] else none

def pathBytes? (t : Text) : Option (List UInt8) :=
  (t.mapM pathPoint?).map List.flatten

/-- Takes numbers below a base in pairs as digits of greater numbers. -/
def pairUp? (base : Nat) (order : ByteOrder) : List Nat → Option (List Nat)
  | [] => some []
  | [_] => none
  | a :: b :: rest =>
    (pairUp? base order rest).map fun units =>
      (match order with
        | .greatestFirst => a * base + b
        | .greatestLast => b * base + a) :: units

/-- The half that three bytes would stand for. -/
def halfOf? (a b c : UInt8) : Option CodePoint :=
  if a = 0xed && 0xa0 ≤ b && b ≤ 0xbf && 0x80 ≤ c && c ≤ 0xbf then
    some (.ofNat (0xd800 + (b.toNat - 0xa0) * 0x40 + (c.toNat - 0x80)))
  else none

/-- The text of bytes of UTF-8. -/
def ofUtf8? (bytes : List UInt8) : Option Text :=
  (String.fromUTF8? ⟨bytes.toArray⟩).map fun s => s

/-- The text of bytes of UTF-8 with halves among them, given the bytes since the last half, the newest
first. -/
def ofUtf8Passing? : (part : List UInt8) → List UInt8 → Option Text
  | part, a :: b :: c :: rest =>
    match halfOf? a b c with
    | some half => do
      let front ← ofUtf8? part.reverse
      let behind ← ofUtf8Passing? [] rest
      pure (front ++ half :: behind)
    | none => ofUtf8Passing? (a :: part) (b :: c :: rest)
  | part, rest => ofUtf8? (part.reverse ++ rest)

/-- The text of UTF-16 units; the two halves of a surrogate pair belong together. -/
def ofUnits16? (halves : Bool) : List Nat → Option Text
  | [] => some []
  | [n] => if halves || n.isValidChar then some [.ofNat n] else none
  | m :: n :: rest =>
    if 0xd800 ≤ m && m < 0xdc00 && 0xdc00 ≤ n && n < 0xe000 then
      (ofUnits16? halves rest).map
        (.ofNat (0x10000 + (m - 0xd800) * 0x400 + (n - 0xdc00)) :: ·)
    else if halves || m.isValidChar then (ofUnits16? halves (n :: rest)).map (.ofNat m :: ·)
    else none

/-- The text of code points. -/
def ofUnits32? (halves : Bool) (units : List Nat) : Option Text :=
  if units.all fun n => n < 0x110000 && (halves || n.isValidChar) then some (units.map .ofNat)
  else none

namespace Encoding

/-- The text of some bytes, in which halves may or may not pass; a byte order mark before a text of
UTF-8 is no part of it. -/
def decode? (encoding : Encoding) (halves : Bool) (bytes : List UInt8) : Option Text :=
  let numbers := bytes.map UInt8.toNat
  match encoding with
  | .utf8 =>
    (if halves then ofUtf8Passing? [] bytes else ofUtf8? bytes).map fun t =>
      (after? ['\ufeff'] t).getD t
  | .utf16 order => (pairUp? 0x100 order numbers).bind (ofUnits16? halves)
  | .utf32 order =>
    ((pairUp? 0x100 order numbers).bind (pairUp? 0x10000 order)).bind (ofUnits32? halves)

/-- The encoding shown by the first zero byte. Three bytes, or one, are too few to show any but
UTF-8. -/
def ofFirstZero : List UInt8 → Encoding
  | a :: b :: c :: d :: _ =>
    if a = 0 then if b = 0 then .utf32 .greatestFirst else .utf16 .greatestFirst
    else if b = 0 then
      if c = 0 && d = 0 then .utf32 .greatestLast else .utf16 .greatestLast
    else .utf8
  | [a, b] =>
    if a = 0 then .utf16 .greatestFirst else if b = 0 then .utf16 .greatestLast else .utf8
  | _ => .utf8

/-- The encoding shown by all zeros among the first four bytes. -/
def ofZeros? (bytes : List UInt8) : Option Encoding :=
  match (bytes.take 4).map (· == 0) with
  | [true, false, true, false] => some (.utf16 .greatestFirst)
  | [false, true, false, true] => some (.utf16 .greatestLast)
  | [true, true, true, false] => some (.utf32 .greatestFirst)
  | [false, true, true, true] => some (.utf32 .greatestLast)
  | zeros => if zeros.contains true then none else some .utf8

end Encoding
end LabEditor.Text
