import LabEditor.Archive.Basic
import LabEditor.Clock
import LabEditor.Text.Encoding

/-! Archives as the bytes of a ZIP file. Members are stored as they are, one after the other, and a
directory at the end tells where each of them begins. -/
namespace LabEditor.Zip

open Text (utf8Bytes)

/-- The bytes of a number, the lowest first. -/
def number : (width : Nat) → Nat → List UInt8
  | 0, _ => []
  | width + 1, n => n.toUInt8 :: number width (n / 256)

/-- Fields of given widths, one after the other. -/
def fields (values : List (Nat × Nat)) : List UInt8 :=
  values.flatMap fun (width, value) => number width value

/-- One bit of the cyclic redundancy check. -/
def shiftBit (register : UInt32) : UInt32 :=
  if register % 2 = 1 then (register >>> 1) ^^^ 0xedb88320 else register >>> 1

def shiftByte (register : UInt32) (byte : UInt8) : UInt32 :=
  Nat.repeat shiftBit 8 (register ^^^ byte.toUInt32)

/-- The check sum of a member. -/
def checksum (bytes : List UInt8) : UInt32 :=
  bytes.foldl shiftByte 0xffffffff ^^^ 0xffffffff

/-- A time of day, in steps of two seconds. -/
def timeOf (clock : Clock) : Nat :=
  clock.hour * 0x800 + clock.minute * 0x20 + clock.second / 2

/-- A date, where years count from 1980. -/
def dateOf (clock : Clock) : Nat :=
  (clock.year - 1980) * 0x200 + clock.month * 0x20 + clock.day

/-- What both records of a member say: how it is read, when it was made, and its sizes. Names are
UTF-8. -/
def summary (clock : Clock) (member : Archived) : List UInt8 :=
  let content := utf8Bytes member.content
  fields [(2, 20), (2, 0x800), (2, 0), (2, timeOf clock), (2, dateOf clock),
    (4, (checksum content).toNat), (4, content.length), (4, content.length),
    (2, (utf8Bytes member.name).length), (2, 0)]

/-- A member with its content. -/
def localRecord (clock : Clock) (member : Archived) : List UInt8 :=
  number 4 0x04034b50 ++ summary clock member ++ utf8Bytes member.name ++ utf8Bytes member.content

/-- The permissions of a member and the mark of a folder. -/
def attributes (member : Archived) : Nat :=
  if member.isFolder then 0x41fd0010 else 0x81800000

/-- The entry of a member in the directory, given where the member begins. -/
def directoryRecord (clock : Clock) (offset : Nat) (member : Archived) : List UInt8 :=
  fields [(4, 0x02014b50), (2, 0x314)] ++ summary clock member ++
    fields [(2, 0), (2, 0), (2, 0), (4, attributes member), (4, offset)] ++ utf8Bytes member.name

/-- The directory of members, the first of which begins at an offset. -/
def directory (clock : Clock) : (offset : Nat) → List Archived → List UInt8
  | _, [] => []
  | offset, member :: members =>
    directoryRecord clock offset member ++
      directory clock (offset + (localRecord clock member).length) members

/-- What ends the file: the number of members, and the size and place of the directory. -/
def endRecord (count size offset : Nat) : List UInt8 :=
  fields [(4, 0x06054b50), (2, 0), (2, 0), (2, count), (2, count), (4, size), (4, offset), (2, 0)]

/-- The bytes of an archive made at a moment. -/
def bytes (clock : Clock) (members : List Archived) : List UInt8 :=
  let records := members.flatMap (localRecord clock)
  let listing := directory clock 0 members
  records ++ listing ++ endRecord members.length listing.length records.length

end LabEditor.Zip
