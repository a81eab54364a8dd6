import LabEditor.Clock
import LabEditor.Json.Reader
import LabEditor.Lab.Starter
import LabEditor.Tree.Expansion
import LabEditor.Tree.Node
import LabEditor.Workspace.Settings
import LabEditor.Workspace.Submission

/-! All that the editor remembers between requests, and its one file. A call that changes something
writes the file before it returns; a call that does not succeed changes nothing. -/
namespace LabEditor

open Record (Written)

/-- The file that a workspace is kept in. -/
inductive Disk where
  /-- The workspace is not kept. -/
  | detached
  | absent
  | holds (content : Text)
deriving DecidableEq, Repr, Inhabited

structure Workspace where
  store : Store
  expansion : Expansion
  settings : Settings
  /-- The newest submission comes first. -/
  submissions : List Submission
  disk : Disk
deriving Inhabited, Repr

namespace Workspace

/-- How many submissions are remembered. -/
def maxSubmissions : Nat := 20

def empty (disk : Disk) : Workspace :=
  ⟨.empty, .empty, .default, [], disk⟩

/-- A listed record, by its path. -/
def fileJson (record : Written) : Json :=
  .arr [record.path, record.toJson]

def toJson (ws : Workspace) : Json :=
  .obj [("files", .arr (ws.store.listing.map fileJson)),
    ("currentFile", ws.store.current),
    ("userSettings", ws.settings.toJson),
    ("previousSubmissions", .arr (ws.submissions.map Submission.toJson)),
    ("folderExpansionState",
      .obj (ws.expansion.table.map fun (path, expanded) => (path, .bool expanded)))]

def fileContent (ws : Workspace) : Text :=
  ws.toJson.indented

def save (ws : Workspace) : Workspace :=
  match ws.disk with
  | .detached => ws
  | _ => { ws with disk := .holds ws.fileContent }

/-- A written record in a list of pairs. -/
def recordOfJson (value : Json) : Except Fault Written := do
  let (_, record) ← value.pair
  Written.ofJson record

/-- A table of open folders, where any value without content stands for the empty table. -/
def expansionOfJson (value : Json) : Except Fault Expansion :=
  if !value.truthy then .ok .empty
  else
    match value with
    | .obj members => .ok ⟨members.map fun (path, flag) => (path, flag.truthy), 0⟩
    | _ => .error .notAnObject

/-- Reads a workspace from the value of its file. -/
def ofJson (value : Json) (disk : Disk) : Except Fault Workspace := do
  let files ← (← value.memberOr "files" (.arr [])).items
  let records ← files.mapM recordOfJson
  let store ← Store.ofWritten records (← value.memberOr "currentFile" .null)
  let expansion ← expansionOfJson (← value.memberOr "folderExpansionState" (.obj []))
  let settings ← Settings.ofJson (← value.memberOr "userSettings" (.obj []))
  let written ← (← value.memberOr "previousSubmissions" (.arr [])).items
  let submissions ← written.mapM Submission.ofJson
  pure ⟨store, expansion, settings, submissions.take maxSubmissions, disk⟩

/-- Opens the workspace of a file. Without a file, or with one that holds no JSON, it is empty. -/
def load (limit : Nat) (content? : Option Text) : Except Fault Workspace :=
  match content? with
  | none => .ok (empty .absent)
  | some content =>
    match Json.read limit content with
    | .ok value => ofJson value (.holds content)
    | .error .malformed => .ok (empty (.holds content))
    | .error .numberTooLong => .error .numberTooLong
    | .error .tooDeep => .error .tooDeep

/-- Opens the workspace of a file given by its bytes. -/
def loadBytes (limit : Nat) (bytes : ByteArray) : Except Fault Workspace :=
  match String.fromUTF8? bytes with
  | some content => load limit (some content)
  | none => .error .encoding

/-- Opens the file of a workspace again. -/
def reload (limit : Nat) (ws : Workspace) : Except Fault Workspace :=
  match ws.disk with
  | .detached => .error .noFile
  | .absent => load limit none
  | .holds content => load limit (some content)

/-- The workspace with another state of its store, saved if that is a change. -/
def withStore (ws : Workspace) (store : Store) : Workspace :=
  let next := { ws with store }
  if store.revision = ws.store.revision then next else next.save

/-- The tree of the files and folders. -/
def tree (ws : Workspace) : Node :=
  Node.build (ws.store.records.map fun record => (record.path, record.isDirectory))
    ws.expansion.isExpanded

/-- The tree of all that the workspace lists. -/
def listedTree (ws : Workspace) : Except Fault Node := do
  ws.store.checkOrder
  Node.ofWritten ws.store.listing ws.expansion.isExpanded

def rename (ws : Workspace) (path newName : Text) : Except Refusal (Workspace × Text) := do
  let (store, target) ← ws.store.rename path newName
  pure ({ ws with store, expansion := ws.expansion.rebase path target }.save, target)

def move (ws : Workspace) (source folder : Text) : Except Refusal (Workspace × Text) := do
  let (store, target) ← ws.store.move source folder
  pure ({ ws with store, expansion := ws.expansion.rebase source target }.save, target)

def delete (ws : Workspace) (path : Text) : Except Refusal (Workspace × List Text) := do
  let (store, removed) ← ws.store.delete path
  pure ({ ws with store, expansion := ws.expansion.forget path }.save, removed)

/-- Refuses a path at which no folder is, with or without a record. A path that is no text can lie
under no folder. -/
def checkFolder (ws : Workspace) (path : Text) : Except Failure Unit :=
  match ws.store.files.get? path with
  | some record => if record.isDirectory then .ok () else .error (.refusal (.notADirectory path))
  | none =>
    if ws.store.files.keys.any (Path.isAncestor path) then .ok ()
    else if path.isEmpty || ws.store.strays.entries.isEmpty then
      .error (.refusal (.notFound path))
    else .error (.fault .notText)

def toggleFolder (ws : Workspace) (path : Text) : Except Failure (Workspace × Bool) := do
  ws.checkFolder path
  let (expansion, expanded) := ws.expansion.toggle path
  pure ({ ws with expansion }.save, expanded)

def setExpanded (ws : Workspace) (path : Text) (expanded : Bool) : Workspace :=
  { ws with expansion := ws.expansion.set path expanded }.save

def updateSettings (ws : Workspace) (theme autoDetect : Json) : Workspace :=
  { ws with settings := ws.settings.update theme autoDetect }.save

/-- Remembers the records as they are now, under an id made for them; the oldest submission is
forgotten if there are too many. -/
def recordSubmission (ws : Workspace) (id : Text) (clock : Clock) (labName authorName : Text) :
    Workspace × Submission :=
  let submission : Submission := {
    id := .str id
    labName := .str labName
    authorName := .str authorName
    timestamp := .str clock.timestamp
    files := ws.store.listing.map fun record => (record.path, record) }
  ({ ws with submissions := submission :: ws.submissions.take (maxSubmissions - 1) }.save,
    submission)

def findSubmission (ws : Workspace) (id : Text) : Except Refusal Submission :=
  match ws.submissions.find? fun submission => submission.id.isText id with
  | some submission => .ok submission
  | none => .error (.notFound id)

/-- Puts the records of a submission in place of all. -/
def restoreSubmission (ws : Workspace) (id : Text) : Except Failure (Workspace × Submission) := do
  let submission ← Failure.ofRefusal (ws.findSubmission id)
  let store ← Failure.ofFault (ws.store.replaceWritten (submission.files.map (·.2)))
  pure (ws.withStore store, submission)

end Workspace
end LabEditor
