import LabEditor.Archive.Entry
import LabEditor.Text.Encoding

/-! Archives: named texts, where a name that ends in a slash is that of a folder. -/
namespace LabEditor

/-- A member of an archive. -/
structure Archived where
  name : Text
  content : Text
deriving DecidableEq, Inhabited, Repr

namespace Archived

def isFolder (member : Archived) : Bool :=
  member.name.getLast? == some ('/' : CodePoint)

/-- The name of a member ends at the first null character. -/
def nameOf (path : Text) : Text :=
  path.takeWhile (· != '\x00')

/-- The name of the member for a path. That of a folder has one slash at its end. -/
def memberName (path : Text) (isFolder : Bool) : Text :=
  nameOf (if isFolder then Text.dropEndWhile (· == '/') path ++ (['/'] : Text) else path)

/-- How many bytes the name of a member may have. -/
def maxNameSize : Nat := 65535

/-- Refuses a name that an archive has no place for. -/
def checkName (name : Text) : Except Fault Unit :=
  if !Text.isEncodable name then .error .notEncodable
  else if maxNameSize < Text.utf8Size name then .error .entryNameTooLong
  else .ok ()

/-- Packs an entry; a file needs a name and a text. Lists and objects are refused as texts only after
their names have been checked. -/
def ofEntry (entry : Entry) : Except Fault Archived := do
  if entry.content.text?.any (!Text.isEncodable ·) then throw .notEncodable
  let some path := entry.path.text? | throw .notText
  let name := memberName path entry.content.isNull
  if name.isEmpty then throw .namelessEntry
  match entry.content with
  | .null => (checkName name).map fun _ => ⟨name, []⟩
  | .str content => (checkName name).map fun _ => ⟨name, content⟩
  | .arr _ | .obj _ =>
    checkName name
    throw .notWritable
  | .bool _ | .int _ | .float _ => throw .notWritable

end Archived

/-- An archive of the given entries, in their order. -/
def archive (entries : List Entry) : Except Fault (List Archived) :=
  entries.mapM Archived.ofEntry

/-- The name of the archive file of a lab. -/
def archiveName (clock : Clock) : Text :=
  "lab_" ++ clock.fileStamp ++ ".zip"

end LabEditor
