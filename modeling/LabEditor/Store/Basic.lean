import LabEditor.Store.Strays

/-! The files and folders of a lab: a flat table of records by path, which stands for a tree. A
folder may have a record of its own or be there only by what lies under it. A call that is refused
changes nothing. -/
namespace LabEditor

open Record (Written)

structure Store where
  files : Table Record
  /-- The path of the file that is open in the editor. -/
  currentFile : Option Text
  /-- What a written store held beside files and folders. -/
  strays : Strays
  /-- How often the store has been changed. -/
  revision : Nat
deriving Inhabited, Repr

namespace Store

def empty : Store := ⟨[], none, .none, 0⟩

def tableOf (records : List Record) : Table Record :=
  Table.ofEntries (records.map fun record => (record.path, record))

/-- Whether a path is that of a file. -/
def isFile (files : Table Record) (path : Text) : Bool :=
  (files.get? path).any fun record => !record.isDirectory

/-- A store of given records; the last record of a path counts. -/
def ofRecords (records : List Record) (currentFile : Option Text) : Store :=
  let files := tableOf records
  ⟨files, currentFile.filter (isFile files), .none, 0⟩

/-- Refuses lists and objects as paths. -/
def checkKeys (paths : List Json) : Except Fault Unit :=
  if paths.all Json.isKey then .ok () else .error .notAKey

/-- A store of written records and the path of the current file. -/
def ofWritten (records : List Written) (current : Json) : Except Fault Store := do
  checkKeys (records.map Written.path)
  checkKeys [current]
  let store := ofRecords (records.filterMap Written.record?) current.text?
  pure { store with strays := .ofRecords records current }

def has (store : Store) (path : Text) : Bool :=
  store.files.has path

def get (store : Store) (path : Text) : Except Refusal Record :=
  match store.files.get? path with
  | some record => .ok record
  | none => .error (.notFound path)

/-- All paths in order. -/
def paths (store : Store) : List Text :=
  Order.sortBy Text.le store.files.keys

/-- All records in the order of their paths. -/
def records (store : Store) : List Record :=
  (Order.sortBy (fun a b => Text.le a.1 b.1) store.files).map (·.2)

/-- The paths of all records, strays first. -/
def keys (store : Store) : List Json :=
  store.strays.sorted.map (·.1) ++ store.paths.map .str

/-- All records as they are written, strays first. -/
def listing (store : Store) : List Written :=
  store.strays.sorted.map (·.2) ++ store.records.map Record.written

/-- Refuses to list records whose paths have no order. -/
def checkOrder (store : Store) : Except Fault Unit :=
  if Json.haveOrder store.keys then .ok () else .error .unordered

def size (store : Store) : Nat :=
  store.strays.entries.length + store.files.length

/-- The path of the current file, or null. -/
def current (store : Store) : Json :=
  match store.currentFile with
  | some path => .str path
  | none => store.strays.current?.getD .null

def changed (store : Store) : Store :=
  { store with revision := store.revision + 1 }

/-- A record at a path that has none yet; folders above it need no record. -/
def create (store : Store) (typed : Text) (isDirectory : Bool) (content : Json) :
    Except Refusal (Store × Record) := do
  let path := Path.normalize typed
  let name := Path.basename path
  checkName name isDirectory
  if store.has path then throw (.duplicatePath path)
  let record : Record := ⟨.str name, path, if isDirectory then .str [] else content, isDirectory⟩
  pure ({ store with files := store.files.put path record }.changed, record)

/-- The record of a file. -/
def getFile (store : Store) (path : Text) : Except Refusal Record := do
  let record ← store.get path
  if record.isDirectory then throw (.isADirectory path)
  pure record

def read (store : Store) (path : Text) : Except Refusal Json := do
  pure (← store.getFile path).content

def write (store : Store) (path : Text) (content : Json) : Except Refusal Store := do
  let record ← store.getFile path
  pure { store with files := store.files.put path { record with content } }.changed

/-- Makes a file the current one. -/
def openFile (store : Store) (path : Text) : Except Refusal (Store × Record) := do
  let record ← store.getFile path
  let strays := { store.strays with current? := none }
  pure ({ store with currentFile := some path, strays }.changed, record)

def close (store : Store) : Store :=
  if store.current.isNull then store
  else { store with currentFile := none, strays := { store.strays with current? := none } }.changed

/-- The paths that the records under `old` would get under `new`, in the order of the records. -/
def targets (store : Store) (old new : Text) : List Text :=
  (store.files.keys.filter (Path.isAncestor old)).map fun key => Path.rebase key old new

/-- Refuses a relocation that would meet a record. Folders may be there without a record, so the
paths under the old one are looked at too. -/
def checkRelocation (store : Store) (old new : Text) : Except Refusal Unit :=
  match (new :: store.targets old new).find? store.has with
  | some taken => .error (.duplicatePath taken)
  | none => .ok ()

/-- An entry of the table after a relocation. -/
def relocateEntry (old new : Text) (entry : Text × Record) : Text × Record :=
  if Path.isWithin entry.1 old then
    let path := Path.rebase entry.1 old new
    (path, { entry.2 with path, name := .str (Path.basename path) })
  else entry

/-- Moves a record and all that lies under it to a new path. -/
def relocate (store : Store) (old new : Text) : Store :=
  { store with
    files := Table.ofEntries (store.files.map (relocateEntry old new))
    currentFile := store.currentFile.map fun path =>
      if !path.isEmpty && Path.isWithin path old then Path.rebase path old new else path }

/-- Gives a record a new name in its folder; the answer is its new path. -/
def rename (store : Store) (path newName : Text) : Except Refusal (Store × Text) := do
  let record ← store.get path
  let name := Text.trim newName
  checkName name record.isDirectory
  let target := Path.join [Path.parent path, name]
  store.checkRelocation path target
  pure ((store.relocate path target).changed, target)

/-- Puts a record into another folder, where the empty path is the root; the answer is its new
path. -/
def move (store : Store) (source folder : Text) : Except Refusal (Store × Text) := do
  let _ ← store.get source
  if !folder.isEmpty then
    let record ← store.get folder
    if !record.isDirectory then throw (.notADirectory folder)
    if Path.isWithin folder source then throw (.moveIntoItself source)
  let target := Path.join [folder, Path.basename source]
  store.checkRelocation source target
  pure ((store.relocate source target).changed, target)

/-- Removes a record and all that lies under it; the answer is what was removed, in order. -/
def delete (store : Store) (path : Text) : Except Refusal (Store × List Text) := do
  let _ ← store.get path
  let removed := Order.sortBy Text.le (store.files.keys.filter fun key => Path.isWithin key path)
  let store := { store with
    files := store.files.keep fun key => !Path.isWithin key path
    currentFile := store.currentFile.filter fun current => !(removed.contains current) }
  pure (store.changed, removed)

/-- Puts other records in place of all; the current file stays open if it is still a file. -/
def replaceAll (store : Store) (records : List Record) : Store :=
  let files := tableOf records
  { store with
    files
    currentFile := store.currentFile.filter fun path => !path.isEmpty && isFile files path
    strays := .none }.changed

/-- Puts written records in place of all. -/
def replaceWritten (store : Store) (records : List Written) : Except Fault Store := do
  checkKeys (records.map Written.path)
  let next := store.replaceAll (records.filterMap Written.record?)
  pure { next with strays := store.strays.replaceAll records }

end Store
end LabEditor
