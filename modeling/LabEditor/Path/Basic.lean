import LabEditor.Text.Blank
import LabEditor.Text.Case

/-! Paths of files and folders: segments set apart by slashes. The root is the empty path. -/
namespace LabEditor.Path

def separator : CodePoint := '/'

/-- The segments of a path that are not empty. -/
def segments (path : Text) : List Text :=
  (Text.cut separator path).filter fun segment => !segment.isEmpty

def ofSegments (segments : List Text) : Text :=
  Text.glue separator segments

/-- The segments of all parts as one path. -/
def join (parts : List Text) : Text :=
  ofSegments (parts.flatMap segments)

/-- The names of the folder itself and of the folder above it. -/
def isDots (segment : Text) : Bool :=
  segment == (['.'] : Text) || segment == (['.', '.'] : Text)

/-- A path typed by a user as the path of a record. Backslashes separate segments too, and a path
that would climb out of the root becomes empty. -/
def normalize (typed : Text) : Text :=
  let parts := segments (Text.trim (typed.map fun (c : CodePoint) => if c = '\\' then separator else c))
  if parts.any isDots then [] else ofSegments parts

def parent (path : Text) : Text :=
  ofSegments (segments path).dropLast

/-- The last segment, which names the file or folder. -/
def basename (path : Text) : Text :=
  (segments path).getLast?.getD []

/-- The last dot of a name and what follows it, unless the name has no dot behind its first
character. -/
def suffix? : Text → Option Text
  | [] => none
  | _ :: name =>
    match Text.splitWhen (· == '.') name.reverse with
    | (_, []) => none
    | (reversed, _) => some ('.' :: reversed.reverse)

/-- The file type of a name, in lower case with its dot; empty for a name without one. -/
def extension (path : Text) : Text :=
  match suffix? (basename path) with
  | some suffix => Text.lower suffix
  | none => []

/-- Whether a path lies under a folder. A folder whose name is the beginning of a longer name does
not claim what lies under the longer one, and nothing lies under the root in this sense. -/
def isAncestor (folder path : Text) : Bool :=
  !folder.isEmpty && Text.startsWith path (folder ++ [separator])

/-- Whether a path is the given one or lies under it. -/
def isWithin (path root : Text) : Bool :=
  path == root || isAncestor root path

/-- What follows the segments of `root` in those of a path that begins with them. -/
def below? : (root path : List Text) → Option (List Text)
  | [], path => some path
  | _ :: _, [] => none
  | r :: root, p :: path => if r = p then below? root path else none

/-- The path with the segments of `old` at its front replaced by those of `new`; a path that does
not begin with them stays as it is. -/
def rebase (path old new : Text) : Text :=
  match below? (segments old) (segments path) with
  | some rest => ofSegments (segments new ++ rest)
  | none => path

end LabEditor.Path
