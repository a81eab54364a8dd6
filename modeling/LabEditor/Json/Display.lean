import LabEditor.Json.Writer

/-! Values shown inside messages and addresses. -/
namespace LabEditor.Json

mutual

/-- A value inside a list or object, or named in a message: texts are quoted. -/
def quoted : Json → Text
  | .null => "None"
  | .bool true => "True"
  | .bool false => "False"
  | .int n => writeInt n
  | .float x => x.write "inf" "nan"
  | .str t => Text.quoted t
  | .arr [] => "[]"
  | .arr (item :: items) => ('[' : CodePoint) :: quoted item ++ quotedItems items ++ ([']'] : Text)
  | .obj [] => "\x7b\x7d"
  | .obj ((name, value) :: members) =>
    ('\x7b' : CodePoint) :: Text.quoted name ++ ": " ++ quoted value ++ quotedMembers members ++
      (['\x7d'] : Text)

def quotedItems : List Json → Text
  | [] => []
  | item :: items => ", " ++ quoted item ++ quotedItems items

def quotedMembers : List (Text × Json) → Text
  | [] => []
  | (name, value) :: members =>
    ", " ++ Text.quoted name ++ ": " ++ quoted value ++ quotedMembers members

end

/-- A value that stands by itself: a text is shown as it is. -/
def display : Json → Text
  | .str t => t
  | value => quoted value

end LabEditor.Json
