import LabEditor.Proofs.Store.Run
import LabEditor.Proofs.Workspace.Live

/-! Runs of calls on a workspace that is empty at first, and what a call does there: it changes
nothing at all if it fails, and the file holds what it leads to otherwise. -/
namespace LabEditor.Workspace
variable {ws next : Workspace}

/-- A call on a workspace or on its store, or a request for an action. -/
inductive Call where
  | onStore (call : Store.Call)
  | rename (path newName : Text)
  | move (source folder : Text)
  | delete (path : Text)
  | toggleFolder (path : Text)
  | updateSettings (theme autoDetect : Json)
  | recordSubmission (id : Text) (clock : Clock) (labName authorName : Text)
  | restoreSubmission (id : Text)
  | apply (action : Action)
  | request (payload : Json)

/-- What a submission is recorded under: the id that was made for it, the time, and the names given. -/
structure Labels where
  id : Text
  clock : Clock
  labName : Text
  authorName : Text

/-- The contents that an action brings. -/
def contentsOf : Action → List Json
  | .createFile _ _ content => [content]
  | _ => []

/-- The texts that an action makes paths of. -/
def textsOf : Action → List Text
  | .createFile parent name _ | .createFolder parent name => [Path.join [parent, name]]
  | .rename _ newName => [newName]
  | _ => []

namespace Call

def steps : Call → Live Workspace Unit
  | onStore call => Live.onStore call.steps
  | rename path newName => Live.ignore (Live.rename path newName)
  | move source folder => Live.ignore (Live.move source folder)
  | delete path => Live.ignore (Live.delete path)
  | toggleFolder path => Live.ignore (Live.toggleFolder path)
  | updateSettings theme autoDetect => Live.updateSettings theme autoDetect
  | recordSubmission id clock labName authorName =>
    Live.ignore (Live.recordSubmission id clock labName authorName)
  | restoreSubmission id => Live.ignore (Live.restoreSubmission id)
  | apply action => Live.ignore (Live.apply action)
  | request payload => do
    let action ← Live.lift (Action.ofJson payload)
    Live.ignore (Live.apply action)

/-- The contents that a call brings. -/
def contents : Call → List Json
  | onStore call => call.contents
  | apply action => contentsOf action
  | request payload =>
    match Action.ofJson payload with
    | .ok action => contentsOf action
    | .error _ => []
  | _ => []

/-- The texts that a call brings beside contents. -/
def texts : Call → List Text
  | onStore call => call.texts
  | rename _ newName => [newName]
  | recordSubmission id _ labName authorName => [id, labName, authorName]
  | apply action => textsOf action
  | request payload =>
    match Action.ofJson payload with
    | .ok action => textsOf action
    | .error _ => []
  | _ => []

/-- What a call records a submission under. -/
def labels? : Call → Option Labels
  | recordSubmission id clock labName authorName => some ⟨id, clock, labName, authorName⟩
  | _ => none

/-- The workspace that a call leads to. -/
def outcome (ws : Workspace) : Call → Except Failure Workspace
  | onStore call => (call.outcome ws.store).map ws.withStore
  | rename path newName => (Failure.ofRefusal (ws.rename path newName)).map (·.1)
  | move source folder => (Failure.ofRefusal (ws.move source folder)).map (·.1)
  | delete path => (Failure.ofRefusal (ws.delete path)).map (·.1)
  | toggleFolder path => (ws.toggleFolder path).map (·.1)
  | updateSettings theme autoDetect => .ok (ws.updateSettings theme autoDetect)
  | recordSubmission id clock labName authorName =>
    .ok (ws.recordSubmission id clock labName authorName).1
  | restoreSubmission id => (ws.restoreSubmission id).map (·.1)
  | apply action => (action.apply ws).map (·.1)
  | request payload => do
    let action ← Action.ofJson payload
    (action.apply ws).map (·.1)

theorem steps_on (call : Call) (ws : Workspace) :
    call.steps.on ws = Live.whole ws ((call.outcome ws).map fun next => (next, ())) := by
  cases call with
  | onStore call =>
    rw [steps, Live.onStore_on (call.steps_on ws.store), outcome]
    cases call.outcome ws.store <;> rfl
  | rename path newName => exact Live.ignore_on (Live.rename_on path newName ws)
  | move source folder => exact Live.ignore_on (Live.move_on source folder ws)
  | delete path => exact Live.ignore_on (Live.delete_on path ws)
  | toggleFolder path => exact Live.ignore_on (Live.toggleFolder_on path ws)
  | updateSettings theme autoDetect => exact Live.updateSettings_on theme autoDetect ws
  | recordSubmission id clock labName authorName =>
    have made := Live.recordSubmission_on id clock labName authorName ws
    rw [steps, Live.ignore, Live.bind_on, made]
    rfl
  | restoreSubmission id => exact Live.ignore_on (Live.restoreSubmission_on id ws)
  | apply action => exact Live.ignore_on (Live.apply_on action ws)
  | request payload =>
    rw [steps, outcome, Live.bind_on, Live.lift_on]
    cases Action.ofJson payload with
    | error failure => rfl
    | ok action => exact Live.ignore_on (Live.apply_on action ws)

end Call

/-- All that a call which succeeds can do with what it brings. -/
inductive Leads (ws : Workspace) (contents : List Json) (texts : List Text) :
    Option Labels → Workspace → Prop where
  | records {store : Store} (call : Store.Call) (given : call.contents = contents)
    (worded : call.texts = texts) (done : call.outcome ws.store = .ok store) :
    Leads ws contents texts none (ws.withStore store)
  | relocated {old new : Text} {store : Store} (worded : ws.store.Worded texts new)
    (relocated : ws.store.Relocated old new store) :
    Leads ws contents texts none { ws with store, expansion := ws.expansion.rebase old new }.save
  | deleted {path : Text} {store : Store} {removed : List Text}
    (deleted : ws.store.delete path = .ok (store, removed)) :
    Leads ws contents texts none { ws with store, expansion := ws.expansion.forget path }.save
  | toggled {path : Text} (folder : ws.checkFolder path = .ok ()) :
    Leads ws contents texts none { ws with expansion := (ws.expansion.toggle path).1 }.save
  | settings (settings : Settings) : Leads ws contents texts none { ws with settings }.save
  | submitted (id : Text) (clock : Clock) (labName authorName : Text)
    (worded : texts = [id, labName, authorName]) :
    Leads ws contents texts (some ⟨id, clock, labName, authorName⟩)
      (ws.recordSubmission id clock labName authorName).1
  | restored {store : Store} {submission : Submission} (known : submission ∈ ws.submissions)
    (replaced : ws.store.replaceWritten (submission.files.map (·.2)) = .ok store) :
    Leads ws contents texts none (ws.withStore store)

namespace Leads

theorem rename (renamed : ws.rename path newName = .ok (next, target)) :
    Leads ws contents [newName] none next := by
  obtain ⟨_, changed, same⟩ := Outcome.bind_ok.mp renamed
  cases same
  exact relocated (Store.rename_worded changed) (Or.inl ⟨newName, changed⟩)

theorem move (moved : ws.move source folder = .ok (next, target)) :
    Leads ws contents [] none next := by
  obtain ⟨_, changed, same⟩ := Outcome.bind_ok.mp moved
  cases same
  exact relocated (Store.move_worded changed) (Or.inr ⟨folder, changed⟩)

theorem delete (deleted : ws.delete path = .ok (next, removed)) :
    Leads ws contents texts none next := by
  obtain ⟨_, changed, same⟩ := Outcome.bind_ok.mp deleted
  cases same
  exact Leads.deleted changed

theorem toggleFolder (toggled : ws.toggleFolder path = .ok (next, expanded)) :
    Leads ws contents texts none next := by
  obtain ⟨_, folder, same⟩ := Outcome.bind_ok.mp toggled
  cases same
  exact Leads.toggled folder

theorem restoreSubmission (restored : ws.restoreSubmission sought = .ok (next, submission)) :
    Leads ws contents texts none next := by
  obtain ⟨found, known, restored⟩ := Outcome.bind_ok.mp restored
  obtain ⟨_, replaced, same⟩ := Outcome.bind_ok.mp restored
  cases same
  refine Leads.restored ?_ (Outcome.ofFault_eq_ok.mp replaced)
  have listed := Outcome.ofRefusal_eq_ok.mp known
  rw [findSubmission] at listed
  split at listed
  · rename_i there
    cases listed
    exact List.mem_of_find?_eq_some there
  · contradiction

theorem apply (applied : Action.apply ws action = .ok (next, answer)) :
    Leads ws (contentsOf action) (textsOf action) none next := by
  cases action with
  | createFile parent name content =>
    obtain ⟨result, made, same⟩ := Outcome.bind_ok.mp applied
    cases same
    exact records (.create (Path.join [parent, name]) false content) rfl rfl
      (Outcome.map_eq_ok.mpr ⟨result, made, rfl⟩)
  | createFolder parent name =>
    obtain ⟨result, made, same⟩ := Outcome.bind_ok.mp applied
    cases same
    exact records (.create (Path.join [parent, name]) true (.str [])) rfl rfl
      (Outcome.map_eq_ok.mpr ⟨result, made, rfl⟩)
  | rename path newName =>
    obtain ⟨result, renamed, same⟩ := Outcome.bind_ok.mp applied
    cases same
    exact rename (Outcome.ofRefusal_eq_ok.mp renamed)
  | move source folder =>
    obtain ⟨result, moved, same⟩ := Outcome.bind_ok.mp applied
    cases same
    exact move (Outcome.ofRefusal_eq_ok.mp moved)
  | delete path confirmed =>
    obtain ⟨_, applied⟩ := Outcome.guard_ok.mp applied
    obtain ⟨result, deleted, same⟩ := Outcome.bind_ok.mp applied
    cases same
    exact delete (Outcome.ofRefusal_eq_ok.mp deleted)
  | openFile path =>
    obtain ⟨result, opened, same⟩ := Outcome.bind_ok.mp applied
    cases same
    exact records (.openFile path) rfl rfl (Outcome.map_eq_ok.mpr ⟨result, opened, rfl⟩)
  | toggleFolder path =>
    obtain ⟨result, toggled, same⟩ := Outcome.bind_ok.mp applied
    cases same
    exact toggleFolder toggled

theorem outcome (call : Call) (done : call.outcome ws = .ok next) :
    Leads ws call.contents call.texts call.labels? next := by
  cases call with
  | onStore call =>
    obtain ⟨_, led, rfl⟩ := Outcome.map_eq_ok.mp done
    exact records call rfl rfl led
  | rename path newName =>
    obtain ⟨_, renamed, rfl⟩ := Outcome.map_eq_ok.mp done
    exact rename (Outcome.ofRefusal_eq_ok.mp renamed)
  | move source folder =>
    obtain ⟨_, moved, rfl⟩ := Outcome.map_eq_ok.mp done
    exact move (Outcome.ofRefusal_eq_ok.mp moved)
  | delete path =>
    obtain ⟨_, deleted, rfl⟩ := Outcome.map_eq_ok.mp done
    exact delete (Outcome.ofRefusal_eq_ok.mp deleted)
  | toggleFolder path =>
    obtain ⟨_, toggled, rfl⟩ := Outcome.map_eq_ok.mp done
    exact toggleFolder toggled
  | updateSettings theme autoDetect =>
    cases done
    exact settings _
  | recordSubmission id clock labName authorName =>
    cases done
    exact submitted id clock labName authorName rfl
  | restoreSubmission id =>
    obtain ⟨_, restored, rfl⟩ := Outcome.map_eq_ok.mp done
    exact restoreSubmission restored
  | apply action =>
    obtain ⟨_, applied, rfl⟩ := Outcome.map_eq_ok.mp done
    exact apply applied
  | request payload =>
    obtain ⟨action, read, done⟩ := Outcome.bind_ok.mp done
    obtain ⟨_, applied, rfl⟩ := Outcome.map_eq_ok.mp done
    simp only [Call.contents, Call.texts, read]
    exact apply applied

end Leads

/-- Either nothing has changed, or the file was written after the last change. -/
def Kept (ws next : Workspace) : Prop :=
  next = ws ∨ ∃ changed : Workspace, changed.disk = ws.disk ∧ next = changed.save

namespace Kept
variable {changed : Workspace} {store : Store}

theorem saved (same : changed.disk = ws.disk) : Kept ws changed.save :=
  Or.inr ⟨changed, same, rfl⟩

theorem withStore (counted : store = ws.store ∨ store.revision ≠ ws.store.revision) :
    Kept ws (ws.withStore store) := by
  rcases counted with rfl | counted
  · exact Or.inl (withStore_same ws)
  · rw [withStore_counted counted]
    exact saved rfl

theorem leads (leads : Leads ws contents texts labels? next) : Kept ws next := by
  cases leads with
  | records call given worded done => exact withStore (call.outcome_counted done)
  | relocated worded relocated => exact saved rfl
  | deleted deleted => exact saved rfl
  | toggled folder => exact saved rfl
  | settings settings => exact saved rfl
  | submitted id clock labName authorName worded => exact saved rfl
  | restored known replaced =>
    obtain ⟨_, _, replaced⟩ := Outcome.bind_ok.mp replaced
    cases replaced
    exact withStore (Or.inr (Nat.succ_ne_self _))

theorem save_disk (attached : ws.disk ≠ .detached) : ws.save.disk = .holds ws.save.fileContent := by
  obtain ⟨store, expansion, settings, submissions, disk⟩ := ws
  cases disk with
  | detached => exact absurd rfl attached
  | absent => rfl
  | holds content => rfl

theorem attached (kept : Kept ws next) : next.disk = .detached ↔ ws.disk = .detached := by
  rcases kept with rfl | ⟨changed, same, rfl⟩
  · exact Iff.rfl
  · rw [← same]
    obtain ⟨store, expansion, settings, submissions, disk⟩ := changed
    cases disk <;> simp [save]

theorem holds (kept : Kept ws next) (attached : ws.disk ≠ .detached) :
    next = ws ∨ next.disk = .holds next.fileContent := by
  rcases kept with rfl | ⟨changed, same, rfl⟩
  · exact Or.inl rfl
  · exact Or.inr (save_disk (same ▸ attached))

end Kept

/-- A step of a run. The making of a lab is no single call: it goes through several, and what they
have made stays if it fails. -/
inductive Step where
  | call (call : Call)
  | scaffold (title image : Text)

def live : Step → Live Workspace Unit
  | .call call => call.steps
  | .scaffold title image => Live.ignore (Live.onStore (Lab.Live.scaffold title image))

/-- A step that fails is one all the same: what it leaves behind is where the run goes on. -/
def step (ws : Workspace) (step : Step) : Workspace :=
  ((live step).on ws).2

def after (start : Workspace) (steps : List Step) : Workspace :=
  steps.foldl step start

theorem after_append (start : Workspace) (steps others : List Step) :
    after start (steps ++ others) = after (after start steps) others :=
  List.foldl_append

/-- What each step keeps holds all along a run. -/
theorem after_induction {P : Workspace → Prop} (before : P start)
    (keeps : ∀ ws, P ws → ∀ step, P (ws.step step)) (steps : List Step) : P (after start steps) :=
  List.foldlRecOn steps step before fun ws holds step _ => keeps ws holds step

theorem step_ok (done : call.outcome ws = .ok next) : ws.step (.call call) = next := by
  rw [step, live, Call.steps_on, done]
  rfl

theorem step_error {failure : Failure} (failed : call.outcome ws = .error failure) :
    ws.step (.call call) = ws := by
  rw [step, live, Call.steps_on, failed]
  rfl

theorem step_call (ws : Workspace) (call : Call) :
    ws.step (.call call) = ws ∨ call.outcome ws = .ok (ws.step (.call call)) := by
  cases done : call.outcome ws with
  | error failure => exact Or.inl (step_error done)
  | ok next => exact Or.inr (congrArg Except.ok (step_ok done).symm)

theorem step_scaffold (ws : Workspace) (title image : Text) :
    ws.step (.scaffold title image) = ws.withStore (Lab.scaffold ws.store title image).1 := by
  rw [step, live, Live.ignore_after]
  exact congrArg (fun result => ws.withStore result.2) (Lab.scaffold_on title image ws.store)

theorem step_attached (attached : ws.disk ≠ .detached) (step : Step) :
    (ws.step step).disk ≠ .detached := by
  cases step with
  | call call =>
    rcases step_call ws call with same | done
    · rwa [same]
    · exact (Kept.leads (.outcome call done)).attached.not.mpr attached
  | scaffold title image =>
    rw [step_scaffold, Workspace.withStore]
    split
    · exact attached
    · have kept : Kept ws { ws with store := (Lab.scaffold ws.store title image).1 }.save :=
        Kept.saved rfl
      exact kept.attached.not.mpr attached

theorem after_attached (attached : start.disk ≠ .detached) (steps : List Step) :
    (after start steps).disk ≠ .detached :=
  after_induction (P := fun ws => ws.disk ≠ .detached) attached (fun _ => step_attached) steps

end LabEditor.Workspace
