import LabEditor.Proofs.Store.Live
import LabEditor.Workspace.Action

/-! The calls of a workspace as steps in the order in which they are taken. A change of the store has
the file written at once, and so has a change of the table of open folders that follows it. Each call
comes to what its definition says. -/
namespace LabEditor.Workspace
variable {ws : Workspace} {store : Store}

@[simp] theorem save_store (ws : Workspace) : ws.save.store = ws.store := by
  rw [save]
  split <;> rfl

@[simp] theorem save_expansion (ws : Workspace) : ws.save.expansion = ws.expansion := by
  rw [save]
  split <;> rfl

@[simp] theorem save_submissions (ws : Workspace) : ws.save.submissions = ws.submissions := by
  rw [save]
  split <;> rfl

theorem withStore_same (ws : Workspace) : ws.withStore ws.store = ws :=
  if_pos rfl

theorem withStore_counted (counted : store.revision ≠ ws.store.revision) :
    ws.withStore store = { ws with store }.save :=
  if_neg counted

@[simp] theorem withStore_store (ws : Workspace) (store : Store) :
    (ws.withStore store).store = store := by
  rw [withStore]
  split
  · rfl
  · exact save_store _

@[simp] theorem withStore_expansion (ws : Workspace) (store : Store) :
    (ws.withStore store).expansion = ws.expansion := by
  rw [withStore]
  split
  · rfl
  · exact save_expansion _

@[simp] theorem withStore_submissions (ws : Workspace) (store : Store) :
    (ws.withStore store).submissions = ws.submissions := by
  rw [withStore]
  split
  · rfl
  · exact save_submissions _

/-- What the file holds makes no difference to what is written to it. -/
theorem save_changed_save (ws : Workspace) (expansion : Expansion) :
    { ws.save with expansion }.save = { ws with expansion }.save := by
  obtain ⟨store, before, settings, submissions, disk⟩ := ws
  cases disk <;> rfl

/-- Writing the file between two changes leaves no trace. -/
theorem save_withStore (ws : Workspace) (store : Store) (change : Expansion → Expansion) :
    { ws.withStore store with expansion := change (ws.withStore store).expansion }.save =
      { ws with store, expansion := change ws.expansion }.save := by
  rw [withStore_expansion, withStore]
  split
  · rfl
  · exact save_changed_save _ _

namespace Live

/-- A call on the store, which writes the file if the store reports a change. -/
def onStore (steps : Live Store α) : Live Workspace α :=
  ExceptT.mk fun ws => ((steps.on ws.store).1, ws.withStore (steps.on ws.store).2)

def save : Live Workspace Unit :=
  modify Workspace.save

def setExpansion (change : Expansion → Expansion) : Live Workspace Unit := do
  modify fun ws => { ws with expansion := change ws.expansion }
  save

def rename (path newName : Text) : Live Workspace Text := do
  let target ← onStore (Store.Live.rename path newName)
  setExpansion fun expansion => expansion.rebase path target
  pure target

def move (source folder : Text) : Live Workspace Text := do
  let target ← onStore (Store.Live.move source folder)
  setExpansion fun expansion => expansion.rebase source target
  pure target

def delete (path : Text) : Live Workspace (List Text) := do
  let removed ← onStore (Store.Live.delete path)
  setExpansion fun expansion => expansion.forget path
  pure removed

def toggleFolder (path : Text) : Live Workspace Bool := do
  Live.lift ((← Live.state).checkFolder path)
  let expanded := !(← Live.state).expansion.isExpanded path
  setExpansion fun expansion => expansion.set path expanded
  pure expanded

def updateSettings (theme autoDetect : Json) : Live Workspace Unit := do
  modify fun ws => { ws with settings := ws.settings.update theme autoDetect }
  save

def recordSubmission (id : Text) (clock : Clock) (labName authorName : Text) :
    Live Workspace Submission := do
  let ws ← Live.state
  let submission : Submission := {
    id := .str id
    labName := .str labName
    authorName := .str authorName
    timestamp := .str clock.timestamp
    files := ws.store.listing.map fun record => (record.path, record) }
  modify fun ws => { ws with submissions := submission :: ws.submissions.take (maxSubmissions - 1) }
  save
  pure submission

def restoreSubmission (id : Text) : Live Workspace Submission := do
  let submission ← Live.ofRefusal ((← Live.state).findSubmission id)
  onStore (Store.Live.replaceWritten (submission.files.map (·.2)))
  pure submission

def apply : Action → Live Workspace (List (Text × Json))
  | .createFile parent name content => do
    let record ← onStore (Store.Live.create (Path.join [parent, name]) false content)
    pure [("path", .str record.path)]
  | .createFolder parent name => do
    let record ← onStore (Store.Live.create (Path.join [parent, name]) true (.str []))
    pure [("path", .str record.path)]
  | .rename path newName => do
    let target ← rename path newName
    pure [("path", .str target)]
  | .move source folder => do
    let target ← move source folder
    pure [("path", .str target)]
  | .delete path confirmed => do
    if !confirmed then Live.refuse (.unconfirmed path)
    let removed ← delete path
    pure [("removed", .texts removed)]
  | .openFile path => do
    let record ← onStore (Store.Live.openFile path)
    pure [("path", .str record.path), ("content", record.content)]
  | .toggleFolder path => do
    let expanded ← toggleFolder path
    pure [("path", .str path), ("expanded", .bool expanded)]

@[simp] theorem save_on (ws : Workspace) : save.on ws = (.ok ⟨⟩, ws.save) := rfl

@[simp] theorem setExpansion_on (change : Expansion → Expansion) (ws : Workspace) :
    (setExpansion change).on ws = (.ok ⟨⟩, { ws with expansion := change ws.expansion }.save) := by
  rw [setExpansion, Live.bind_on]
  rfl

theorem onStore_on {steps : Live Store α} (same : steps.on ws.store = Live.whole ws.store outcome) :
    (onStore steps).on ws =
      Live.whole ws (outcome.map fun (store, value) => (ws.withStore store, value)) := by
  have left : (onStore steps).on ws =
      ((steps.on ws.store).1, ws.withStore (steps.on ws.store).2) := rfl
  rw [left, same]
  cases outcome with
  | error failure => exact congrArg (Prod.mk _) (withStore_same ws)
  | ok result => rfl

theorem rename_on (path newName : Text) (ws : Workspace) :
    (rename path newName).on ws = Live.whole ws (Failure.ofRefusal (ws.rename path newName)) := by
  simp only [rename, Workspace.rename, Live.bind_on,
    onStore_on (Store.Live.rename_on path newName ws.store)]
  cases ws.store.rename path newName with
  | error reason => rfl
  | ok result => exact congrArg (Prod.mk _) (save_withStore ws result.1 (·.rebase path result.2))

theorem move_on (source folder : Text) (ws : Workspace) :
    (move source folder).on ws = Live.whole ws (Failure.ofRefusal (ws.move source folder)) := by
  simp only [move, Workspace.move, Live.bind_on,
    onStore_on (Store.Live.move_on source folder ws.store)]
  cases ws.store.move source folder with
  | error reason => rfl
  | ok result => exact congrArg (Prod.mk _) (save_withStore ws result.1 (·.rebase source result.2))

theorem delete_on (path : Text) (ws : Workspace) :
    (delete path).on ws = Live.whole ws (Failure.ofRefusal (ws.delete path)) := by
  simp only [delete, Workspace.delete, Live.bind_on,
    onStore_on (Store.Live.delete_on path ws.store)]
  cases ws.store.delete path with
  | error reason => rfl
  | ok result => exact congrArg (Prod.mk _) (save_withStore ws result.1 (·.forget path))

theorem toggleFolder_on (path : Text) (ws : Workspace) :
    (toggleFolder path).on ws = Live.whole ws (ws.toggleFolder path) := by
  simp only [toggleFolder, Workspace.toggleFolder, Live.bind_on, Live.state_on, Live.lift_on]
  cases ws.checkFolder path with
  | error failure => rfl
  | ok => simp only [setExpansion_on]; rfl

theorem updateSettings_on (theme autoDetect : Json) (ws : Workspace) :
    (updateSettings theme autoDetect).on ws = (.ok ⟨⟩, ws.updateSettings theme autoDetect) := by
  rw [updateSettings, Live.bind_on]
  rfl

theorem recordSubmission_on (id : Text) (clock : Clock) (labName authorName : Text)
    (ws : Workspace) :
    (recordSubmission id clock labName authorName).on ws =
      (.ok (ws.recordSubmission id clock labName authorName).2,
        (ws.recordSubmission id clock labName authorName).1) := by
  simp only [recordSubmission, Live.bind_on, Live.state_on, Live.modify_on, save_on, Live.pure_on]
  rfl

theorem restoreSubmission_on (id : Text) (ws : Workspace) :
    (restoreSubmission id).on ws = Live.whole ws (ws.restoreSubmission id) := by
  simp only [restoreSubmission, Workspace.restoreSubmission, Live.bind_on, Live.state_on,
    Live.ofRefusal_on]
  cases ws.findSubmission id with
  | error reason => rfl
  | ok submission =>
    have put := Store.Live.replaceWritten_on (submission.files.map (·.2)) ws.store
    simp only [Outcome.ofRefusal_ok, Outcome.ok_bind, onStore_on put]
    cases ws.store.replaceWritten (submission.files.map (·.2)) with
    | error cause => rfl
    | ok store => rfl

theorem apply_on (action : Action) (ws : Workspace) :
    (apply action).on ws = Live.whole ws (action.apply ws) := by
  cases action with
  | createFile parent name content =>
    have made := Store.Live.create_on (Path.join [parent, name]) false content ws.store
    simp only [apply, Action.apply, Live.bind_on, onStore_on made]
    cases ws.store.create (Path.join [parent, name]) false content <;> rfl
  | createFolder parent name =>
    have made := Store.Live.create_on (Path.join [parent, name]) true (.str []) ws.store
    simp only [apply, Action.apply, Live.bind_on, onStore_on made]
    cases ws.store.create (Path.join [parent, name]) true (.str []) <;> rfl
  | rename path newName =>
    simp only [apply, Action.apply, Live.bind_on, rename_on]
    cases ws.rename path newName <;> rfl
  | move source folder =>
    simp only [apply, Action.apply, Live.bind_on, move_on]
    cases ws.move source folder <;> rfl
  | delete path confirmed =>
    cases confirmed with
    | false => rfl
    | true =>
      have done := delete_on path ws
      simp only [apply, Action.apply, Bool.not_true, Bool.false_eq_true, if_false, Live.bind_on,
        done]
      cases ws.delete path <;> rfl
  | openFile path =>
    simp only [apply, Action.apply, Live.bind_on, onStore_on (Store.Live.openFile_on path ws.store)]
    cases ws.store.openFile path <;> rfl
  | toggleFolder path =>
    simp only [apply, Action.apply, Live.bind_on, toggleFolder_on]
    cases ws.toggleFolder path <;> rfl

end Live
end LabEditor.Workspace
