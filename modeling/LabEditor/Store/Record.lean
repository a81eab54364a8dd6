import LabEditor.Json.Access
import LabEditor.Path.Basic

/-! Records of files and folders, and their written form. -/
namespace LabEditor

/-- A file or folder of a lab. The name is the last segment of the path, and content is a text,
except where a written record says otherwise. -/
structure Record where
  name : Json
  path : Text
  content : Json
  isDirectory : Bool
deriving Inhabited, Repr

namespace Record

/-- The members of a written record, where the path may be any value. -/
structure Written where
  name : Json
  path : Json
  content : Json
  isDirectory : Bool
deriving Inhabited, Repr

namespace Written

/-- Reads a record. A name that is missing or empty is taken from the path, and the content of a
folder is dropped. -/
def ofJson (value : Json) : Except Fault Written := do
  let path ← value.member "path"
  let isDirectory := (← value.memberOr "isDirectory" (.bool false)).truthy
  let given ← value.memberOr "name" .null
  let name ← if given.truthy then pure given
    else match path with
      | .str t => pure (.str (Path.basename t))
      | _ => throw .notText
  let content ← if isDirectory then pure (.str []) else value.memberOr "content" (.str [])
  pure { name, path, content, isDirectory }

def toJson (record : Written) : Json :=
  .obj [("name", record.name), ("path", record.path), ("content", record.content),
    ("isDirectory", .bool record.isDirectory)]

/-- The record of a file or folder, if the path is a text. -/
def record? (written : Written) : Option Record :=
  match written.path with
  | .str path => some ⟨written.name, path, written.content, written.isDirectory⟩
  | _ => none

end Written

def written (record : Record) : Written :=
  ⟨record.name, .str record.path, record.content, record.isDirectory⟩

def toJson (record : Record) : Json :=
  record.written.toJson

end Record

/-- Whether a file or folder may have a name. -/
def checkName (name : Text) (isDirectory : Bool) : Except Refusal Unit :=
  if name.isEmpty || name.contains Path.separator || Path.isDots name then
    .error (.invalidName name)
  else if isDirectory then .ok ()
  else
    let extension := Path.extension name
    if extension.isEmpty || allowedExtensions.contains extension then .ok ()
    else .error (.fileType extension)

end LabEditor
