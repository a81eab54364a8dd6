import LabEditor.Text.Encoding
import LabEditor.Text.Entity

/-! Percent-encoding, in which addresses write the bytes of characters that they cannot hold. -/
namespace LabEditor.Text

/-- The bytes of a text where a percent sign and two hexadecimal digits stand for one byte. -/
def percentBytes : Text → List UInt8
  | [] => []
  | '%' :: a :: b :: t =>
    match hexValue? a, hexValue? b with
    | some high, some low => (16 * high + low).toUInt8 :: percentBytes t
    | _, _ => 0x25 :: percentBytes (a :: b :: t)
  | c :: t => utf8Bytes [c] ++ percentBytes t

/-- How many bytes follow the first byte of a character, and between which bounds the second one
lies. -/
def lead? (byte : UInt8) : Option (Nat × UInt8 × UInt8) :=
  if byte < 0x80 then some (0, 0x80, 0xbf)
  else if 0xc2 ≤ byte && byte ≤ 0xdf then some (1, 0x80, 0xbf)
  else if byte = 0xe0 then some (2, 0xa0, 0xbf)
  else if byte = 0xed then some (2, 0x80, 0x9f)
  else if 0xe1 ≤ byte && byte ≤ 0xef then some (2, 0x80, 0xbf)
  else if byte = 0xf0 then some (3, 0x90, 0xbf)
  else if byte = 0xf4 then some (3, 0x80, 0x8f)
  else if 0xf1 ≤ byte && byte ≤ 0xf3 then some (3, 0x80, 0xbf)
  else none

/-- The bytes at the front that can belong to one character, at most `count` of them; the first one
lies between the given bounds. -/
def continuation : (count : Nat) → (low high : UInt8) → List UInt8 → List UInt8
  | 0, _, _, _ | _, _, _, [] => []
  | count + 1, low, high, byte :: bytes =>
    if low ≤ byte && byte ≤ high then byte :: continuation count 0x80 0xbf bytes else []

/-- The character at the front of some bytes of UTF-8, and how many more bytes it takes. What is no
character but the beginning of one becomes the replacement character as a whole. -/
def characterOf (first : UInt8) (bytes : List UInt8) : CodePoint × Nat :=
  match lead? first with
  | none => ('\ufffd', 0)
  | some (count, low, high) =>
    let more := continuation count low high bytes
    match (ofUtf8? (first :: more)).bind List.head? with
    | some c => (c, more.length)
    | none => ('\ufffd', more.length)

/-- The characters of some bytes after the first `skip`. -/
def ofBytes : (skip : Nat) → List UInt8 → Text
  | _, [] => []
  | skip + 1, _ :: bytes => ofBytes skip bytes
  | 0, byte :: bytes =>
    let (c, more) := characterOf byte bytes
    c :: ofBytes more bytes

def percentDecoded (t : Text) : Text :=
  ofBytes 0 (percentBytes t)

end LabEditor.Text
