import LabEditor.Json.Basic
import LabEditor.Decimal.Shortest
import LabEditor.Text.Quoted

/-! The two written forms of JSON: indented by two spaces, as in files, and on one line. Everything
but printable ASCII is escaped, in UTF-16 units. -/
namespace LabEditor.Json

open Text (hexDigits)

def escapedUnit (n : Nat) : Text :=
  '\\' :: 'u' :: hexDigits 4 n

/-- One character inside a written text. -/
def escapedChar (c : CodePoint) : Text :=
  if c = '"' then ['\\', '"']
  else if c = '\\' then ['\\', '\\']
  else if c = '\n' then ['\\', 'n']
  else if c = '\r' then ['\\', 'r']
  else if c = '\t' then ['\\', 't']
  else if c = '\x08' then ['\\', 'b']
  else if c = '\x0c' then ['\\', 'f']
  else if 0x20 ≤ c.toNat && c.toNat < 0x7f then [c]
  else if c.toNat < 0x10000 then escapedUnit c.toNat
  else
    let n := c.toNat - 0x10000
    escapedUnit (0xd800 + n / 0x400) ++ escapedUnit (0xdc00 + n % 0x400)

def writeText (t : Text) : Text :=
  ('"' : CodePoint) :: t.flatMap escapedChar ++ (['"'] : Text)

/-- What stands between a bracket and the first item, between two items, and before the closing
bracket: line breaks with indentation, or nothing. -/
structure Layout where
  /-- The line break at a depth of nesting. -/
  lineBreak : Nat → Text
  /-- What separates a member's name from its value. -/
  colon : Text

def indentedLayout : Layout where
  lineBreak depth := '\n' :: List.replicate (2 * depth) ' '
  colon := [':', ' ']

def compactLayout : Layout where
  lineBreak _ := []
  colon := [':']

def writeInt (n : Int) : Text :=
  if n < 0 then '-' :: Text.digits n.natAbs else Text.digits n.natAbs

mutual

def writeAt (layout : Layout) (depth : Nat) : Json → Text
  | .null => "null"
  | .bool true => "true"
  | .bool false => "false"
  | .int n => writeInt n
  | .float x => x.write "Infinity" "NaN"
  | .str t => writeText t
  | .arr [] => "[]"
  | .arr (item :: items) =>
    ('[' : CodePoint) :: layout.lineBreak (depth + 1) ++ writeAt layout (depth + 1) item ++
      writeItems layout (depth + 1) items ++ layout.lineBreak depth ++ ([']'] : Text)
  | .obj [] => "\x7b\x7d"
  | .obj ((name, value) :: members) =>
    ('\x7b' : CodePoint) :: layout.lineBreak (depth + 1) ++ writeText name ++ layout.colon ++
      writeAt layout (depth + 1) value ++ writeMembers layout (depth + 1) members ++
      layout.lineBreak depth ++ (['\x7d'] : Text)

/-- The items after the first one. -/
def writeItems (layout : Layout) (depth : Nat) : List Json → Text
  | [] => []
  | item :: items =>
    (',' : CodePoint) :: layout.lineBreak depth ++ writeAt layout depth item ++ writeItems layout depth items

/-- The members after the first one. -/
def writeMembers (layout : Layout) (depth : Nat) : List (Text × Json) → Text
  | [] => []
  | (name, value) :: members =>
    (',' : CodePoint) :: layout.lineBreak depth ++ writeText name ++ layout.colon ++
      writeAt layout depth value ++ writeMembers layout depth members

end

/-- The form of files: one item or member on each line. -/
def indented (value : Json) : Text :=
  writeAt indentedLayout 0 value

/-- The form without white space. -/
def compact (value : Json) : Text :=
  writeAt compactLayout 0 value

end LabEditor.Json
