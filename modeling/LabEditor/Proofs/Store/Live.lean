import LabEditor.Store.Basic
import LabEditor.Proofs.Live

/-! The calls of a store as steps in the order in which they are taken, the report of a change last.
Each call comes to what its definition says: all of its changes, or none if it fails. -/
namespace LabEditor.Store

open Record (Written)

namespace Live

def setFiles (change : Table Record → Table Record) : Live Store Unit :=
  modify fun store => { store with files := change store.files }

def setCurrent (change : Option Text → Option Text) : Live Store Unit :=
  modify fun store => { store with currentFile := change store.currentFile }

def report : Live Store Unit :=
  modify changed

def require (path : Text) : Live Store Record := do
  Live.ofRefusal ((← Live.state).get path)

def requireFile (path : Text) : Live Store Record := do
  let record ← require path
  if record.isDirectory then Live.refuse (.isADirectory path)
  pure record

def create (typed : Text) (isDirectory : Bool) (content : Json) : Live Store Record := do
  let path := Path.normalize typed
  let name := Path.basename path
  Live.ofRefusal (checkName name isDirectory)
  if (← Live.state).has path then Live.refuse (.duplicatePath path)
  let record : Record := ⟨.str name, path, if isDirectory then .str [] else content, isDirectory⟩
  setFiles (Table.put path record)
  report
  pure record

def write (path : Text) (content : Json) : Live Store Unit := do
  let record ← requireFile path
  setFiles (Table.put path { record with content })
  report

/-- Whatever was current before, a stray included, gives way. -/
def makeCurrent (path? : Option Text) : Live Store Unit :=
  modify fun store =>
    { store with currentFile := path?, strays := { store.strays with current? := none } }

def openFile (path : Text) : Live Store Record := do
  let record ← requireFile path
  makeCurrent (some path)
  report
  pure record

def close : Live Store Unit := do
  if (← Live.state).current.isNull then pure ()
  else
    makeCurrent none
    report

def relocate (old new : Text) : Live Store Unit := do
  setFiles fun files => Table.ofEntries (files.map (relocateEntry old new))
  setCurrent fun current => current.map fun path =>
    if !path.isEmpty && Path.isWithin path old then Path.rebase path old new else path

/-- The end of a call that moves a record and all that lies under it. -/
def bring (old new : Text) : Live Store Text := do
  Live.ofRefusal ((← Live.state).checkRelocation old new)
  relocate old new
  report
  pure new

def rename (path newName : Text) : Live Store Text := do
  let record ← require path
  let name := Text.trim newName
  Live.ofRefusal (checkName name record.isDirectory)
  bring path (Path.join [Path.parent path, name])

/-- Refuses a folder that is not there, is a file, or lies in what is to be moved. -/
def checkFolder (source folder : Text) : Live Store Unit := do
  let record ← require folder
  if !record.isDirectory then Live.refuse (.notADirectory folder)
  if Path.isWithin folder source then Live.refuse (.moveIntoItself source)

def move (source folder : Text) : Live Store Text := do
  let _ ← require source
  if folder.isEmpty then pure () else checkFolder source folder
  bring source (Path.join [folder, Path.basename source])

def delete (path : Text) : Live Store (List Text) := do
  let _ ← require path
  let removed := Order.sortBy Text.le ((← Live.state).files.keys.filter fun key => Path.isWithin key path)
  setFiles (Table.keep fun key => !Path.isWithin key path)
  setCurrent fun current => current.filter fun path => !(removed.contains path)
  report
  pure removed

def replaceWritten (records : List Written) : Live Store Unit := do
  Live.ofFault (checkKeys (records.map Written.path))
  setFiles fun _ => tableOf (records.filterMap Written.record?)
  modify fun store => { store with
    currentFile := store.currentFile.filter fun path => !path.isEmpty && isFile store.files path
    strays := store.strays.replaceAll records }
  report

@[simp] theorem setFiles_on (change : Table Record → Table Record) (store : Store) :
    (setFiles change).on store = (.ok ⟨⟩, { store with files := change store.files }) := rfl

@[simp] theorem setCurrent_on (change : Option Text → Option Text) (store : Store) :
    (setCurrent change).on store = (.ok ⟨⟩, { store with currentFile := change store.currentFile }) :=
  rfl

@[simp] theorem report_on (store : Store) : report.on store = (.ok ⟨⟩, store.changed) := rfl

@[simp] theorem require_on (path : Text) (store : Store) :
    (require path).on store = (Failure.ofRefusal (store.get path), store) := by
  rw [require, Live.bind_on]
  rfl

theorem requireFile_on (path : Text) (store : Store) :
    (requireFile path).on store = (Failure.ofRefusal (store.getFile path), store) := by
  simp only [requireFile, getFile, Live.bind_on, require_on]
  cases store.get path with
  | error reason => rfl
  | ok record =>
    by_cases folder : record.isDirectory = true
    · simp only [Outcome.ofRefusal_ok, Outcome.ok_bind, folder, if_true]
      rfl
    · simp only [Outcome.ofRefusal_ok, Outcome.ok_bind, folder]
      rfl

theorem create_on (typed : Text) (isDirectory : Bool) (content : Json) (store : Store) :
    (create typed isDirectory content).on store =
      Live.whole store (Failure.ofRefusal (store.create typed isDirectory content)) := by
  simp only [create, Store.create, Live.bind_on, Live.ofRefusal_on]
  cases checkName (Path.basename (Path.normalize typed)) isDirectory with
  | error reason => rfl
  | ok =>
    by_cases taken : store.has (Path.normalize typed) = true
    · simp only [Outcome.ofRefusal_ok, Outcome.ok_bind, Live.state_on, taken, if_true]
      rfl
    · simp only [Outcome.ofRefusal_ok, Outcome.ok_bind, Live.state_on, taken]
      rfl

theorem write_on (path : Text) (content : Json) (store : Store) :
    (write path content).on store =
      Live.whole store ((Failure.ofRefusal (store.write path content)).map fun next => (next, ())) := by
  simp only [write, Store.write, Live.bind_on, requireFile_on]
  cases store.getFile path with
  | error reason => rfl
  | ok record => rfl

theorem openFile_on (path : Text) (store : Store) :
    (openFile path).on store = Live.whole store (Failure.ofRefusal (store.openFile path)) := by
  simp only [openFile, Store.openFile, Live.bind_on, requireFile_on]
  cases store.getFile path with
  | error reason => rfl
  | ok record => rfl

theorem close_on (store : Store) : close.on store = (.ok (), store.close) := by
  simp only [close, Store.close, Live.bind_on, Live.state_on, Live.ite_on]
  split
  · rfl
  · rfl

theorem relocate_on (old new : Text) (store : Store) :
    (relocate old new).on store = (.ok ⟨⟩, store.relocate old new) := by
  simp only [relocate, Live.bind_on, setFiles_on, setCurrent_on]
  rfl

theorem bring_on (old new : Text) (store : Store) :
    (bring old new).on store = Live.whole store (Failure.ofRefusal do
      store.checkRelocation old new
      pure ((store.relocate old new).changed, new)) := by
  simp only [bring, Live.bind_on, Live.state_on, Live.ofRefusal_on]
  cases store.checkRelocation old new with
  | error reason => rfl
  | ok =>
    simp only [Outcome.ofRefusal_ok, Outcome.ok_bind, relocate_on, report_on]
    rfl

theorem rename_on (path newName : Text) (store : Store) :
    (rename path newName).on store =
      Live.whole store (Failure.ofRefusal (store.rename path newName)) := by
  simp only [rename, Store.rename, Live.bind_on, require_on]
  cases store.get path with
  | error reason => rfl
  | ok record =>
    simp only [Outcome.ofRefusal_ok, Outcome.ok_bind, Live.ofRefusal_on]
    cases checkName (Text.trim newName) record.isDirectory with
    | error reason => rfl
    | ok => exact bring_on path _ store

theorem move_on (source folder : Text) (store : Store) :
    (move source folder).on store = Live.whole store (Failure.ofRefusal (store.move source folder)) := by
  simp only [move, Store.move, Live.bind_on, require_on]
  cases store.get source with
  | error reason => rfl
  | ok record =>
    simp only [Outcome.ofRefusal_ok, Outcome.ok_bind, Live.ite_on]
    by_cases root : folder.isEmpty = true
    · simp only [root, if_true, Bool.not_true, Bool.false_eq_true, if_false]
      exact bring_on source _ store
    · simp only [root, Bool.not_false, if_true, if_false, Bool.false_eq_true, Live.bind_on,
        checkFolder, require_on]
      cases store.get folder with
      | error reason => rfl
      | ok record =>
        cases kind : record.isDirectory with
        | false =>
          simp only [Outcome.ofRefusal_ok, Outcome.ok_bind, kind]
          rfl
        | true =>
          cases inside : Path.isWithin folder source with
          | true =>
            simp only [Outcome.ofRefusal_ok, Outcome.ok_bind, kind]
            rfl
          | false =>
            simp only [Outcome.ofRefusal_ok, Outcome.ok_bind, kind]
            exact bring_on source _ store

theorem delete_on (path : Text) (store : Store) :
    (delete path).on store = Live.whole store (Failure.ofRefusal (store.delete path)) := by
  simp only [delete, Store.delete, Live.bind_on, require_on]
  cases store.get path with
  | error reason => rfl
  | ok record => rfl

theorem replaceWritten_on (records : List Written) (store : Store) :
    (replaceWritten records).on store =
      Live.whole store ((Failure.ofFault (store.replaceWritten records)).map fun next => (next, ())) := by
  simp only [replaceWritten, Store.replaceWritten, Live.bind_on, Live.ofFault_on]
  cases checkKeys (records.map Written.path) with
  | error cause => rfl
  | ok => rfl

end Live
end LabEditor.Store
