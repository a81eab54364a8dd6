import LabEditor.Archive.Basic

/-! A directory of an output medium: folders, files and one archive, each at its path. -/
namespace LabEditor.Export

/-- What stands at a path. -/
inductive Item where
  | folder
  | file (content : Text)
  | archive (members : List Archived)
deriving DecidableEq, Inhabited, Repr

def Item.isFolder : Item → Bool
  | .folder => true
  | _ => false

def Item.isText : Item → Bool
  | .file _ => true
  | _ => false

/-- Paths below the directory, as segments, with what stands there. -/
abbrev Directory := List (List Text × Item)

/-- Where a way leads. What lies outside the directory is not looked at. -/
inductive Place where
  | below (segments : List Text)
  | outside
deriving DecidableEq, Inhabited, Repr

namespace Place

/-- Where a way begins: at the directory, or outside of it if its path does not depend on where it
is followed. -/
def start (path : Text) : Place :=
  if path.head? = some Path.separator then .outside else .below []

/-- The names along a way; those of the folder itself do not count. -/
def names (path : Text) : List Text :=
  (Path.segments path).filter (· != (['.'] : Text))

/-- One step of a way; two dots lead to the folder above. -/
def enter (place : Place) (name : Text) : Place :=
  match place with
  | .outside => .outside
  | .below segments =>
    if name != (['.', '.'] : Text) then .below (segments ++ [name])
    else if segments.isEmpty then .outside
    else .below segments.dropLast

end Place

/-- What the medium of a directory takes: it bounds the length of a name, and that of a way from the
directory. -/
structure Medium where
  takesName : Text → Bool
  takesWay : List Text → Bool

/-- Refuses the names of a way that cannot be one on a medium. -/
def Medium.checkWay (medium : Medium) (names : List Text) : Except Fault Unit :=
  if names.any fun name => (Text.pathBytes? name).isNone then .error .notEncodable
  else if names.any (·.contains '\x00') then .error .nullInPath
  else if medium.takesWay names then .ok ()
  else .error .nameTooLong

def Medium.checkName (medium : Medium) (name : Text) : Except Fault Unit :=
  if medium.takesName name then .ok () else .error .nameTooLong

namespace Directory

def get? (directory : Directory) (segments : List Text) : Option Item :=
  (directory.find? fun entry => entry.1 == segments).map (·.2)

/-- Whether there is a folder at a path; the directory itself is one. -/
def hasFolder (directory : Directory) (segments : List Text) : Bool :=
  segments.isEmpty || (directory.get? segments).any Item.isFolder

/-- What is left of an output directory before an export: the history of its versions. -/
def cleaned (directory : Directory) : Directory :=
  directory.filter fun entry => entry.1.head? == some (".git" : Text)

/-- All paths with what stands there, in order. -/
def listing (directory : Directory) : List (Text × Item) :=
  Order.sortBy (fun a b => Text.le a.1 b.1)
    (directory.map fun (segments, item) => (Path.ofSegments segments, item))

end Directory

/-- Steps that write into a directory. What was written stays there when a later step does not
succeed. -/
abbrev Writing (α : Type) := ExceptT Fault (StateM Directory) α

namespace Writing

def lift (outcome : Except Fault α) : Writing α :=
  ExceptT.mk (pure outcome)

/-- Makes a folder in one that is there, if none stands in its place. A file in the place of the
last folder of a way and one further up are told apart. -/
def makeFolder (place : Place) (isLast : Bool) : Writing Unit := do
  match place with
  | .outside => pure ()
  | .below segments =>
    let directory ← get
    if !directory.hasFolder segments then
      if (directory.get? segments).isSome then
        throw (if isLast then .fileInPlace else .fileOnTheWay)
      set (directory ++ [(segments, Item.folder)])

/-- Makes the folders along a way, the outermost first. -/
def makeFolders (medium : Medium) : Place → List Text → Writing Place
  | place, [] => pure place
  | place, name :: names => do
    lift (medium.checkName name)
    let next := place.enter name
    makeFolder next names.isEmpty
    makeFolders medium next names

/-- Writes an item into a folder that is there; an old one is replaced. -/
def writeItem (medium : Medium) (place : Place) (name : Text) (item : Item) : Writing Unit := do
  lift (medium.checkName name)
  if name = (['.', '.'] : Text) then throw .folderInPlace
  match place with
  | .outside => pure ()
  | .below above =>
    let segments := above ++ [name]
    let directory ← get
    if directory.hasFolder segments then throw .folderInPlace
    set (directory.filter (fun entry => entry.1 != segments) ++ [(segments, item)])

/-- Makes the folder at the end of a way. -/
def folder (medium : Medium) (start : Place) (names : List Text) : Writing Unit := do
  lift (medium.checkWay names)
  let _ ← makeFolders medium start names

/-- Writes a text to a file. One that cannot be encoded leaves an empty file behind. -/
def writeText (medium : Medium) (place : Place) (name t : Text) : Writing Unit := do
  if Text.isEncodable t then writeItem medium place name (.file t)
  else
    writeItem medium place name (.file [])
    throw .notEncodable

/-- Writes a file at the end of a way, after making the folders above it. What is written must be a
text. -/
def file (medium : Medium) (start : Place) (names : List Text) (content : Json) :
    Writing Unit := do
  lift (medium.checkWay names.dropLast)
  let place ← makeFolders medium start names.dropLast
  let some text := content.text? | throw .notWritable
  lift (medium.checkWay names)
  match names.getLast? with
  | some name => writeText medium place name text
  | none => throw .folderInPlace

end Writing
end LabEditor.Export
