import LabEditor.Proofs.Workspace.Contents
import LabEditor.Service.Api

/-! What answering a request does to the workspace: whatever the endpoint, and whether the answer
succeeds or not, it is what some steps of a user of the workspace do. -/
namespace LabEditor.Service
open Deployment

section
variable {α : Type} {state : State}

@[simp] theorem get_on (state : State) :
    Live.on (get : Handler State) state = (.ok state, state) := rfl

@[simp] theorem lift_on (outcome : Except Failure α) (state : State) :
    Live.on (lift outcome) state = (outcome, state) := rfl

@[simp] theorem ofRefusal_on (outcome : Except Refusal α) (state : State) :
    Live.on (ofRefusal outcome) state = (Failure.ofRefusal outcome, state) := rfl

@[simp] theorem ofFault_on (outcome : Except Fault α) (state : State) :
    Live.on (ofFault outcome) state = (Failure.ofFault outcome, state) := rfl

@[simp] theorem exchange_on (steps : Exchange α) (state : State) :
    Live.on (exchange steps) state =
      ((Live.on steps state.connection).1,
        { state with connection := (Live.on steps state.connection).2 }) := by
  rfl

@[simp] theorem change_on (f : Workspace → Except Failure (Workspace × α)) (state : State) :
    Live.on (change f) state = match f state.workspace with
      | .ok (ws, value) => (.ok value, { state with workspace := ws })
      | .error failure => (.error failure, state) := by
  simp only [change, workspace, Live.bind_on, get_on, lift_on, Live.pure_on]
  cases f state.workspace with
  | error failure => rfl
  | ok result => rfl

end

/-- What a handler leaves of the workspace is what steps lead to that bring only certain contents. -/
def Runs {α : Type} (P : Json → Prop) (handler : Handler α) : Prop :=
  ∀ state : State, ∃ steps : List Workspace.Step,
    (Live.on handler state).2.workspace = state.workspace.after steps ∧
      ∀ step ∈ steps, ∀ content ∈ step.contents, P content

namespace Runs
variable {α β : Type} {P : Json → Prop}

theorem still {handler : Handler α}
    (same : ∀ state, (Live.on handler state).2.workspace = state.workspace) : Runs P handler :=
  fun state => ⟨[], same state, fun _ none => absurd none List.not_mem_nil⟩

theorem pure (value : α) : Runs P (pure value : Handler α) :=
  still fun _ => rfl

theorem get : Runs P (get : Handler State) :=
  still fun _ => rfl

theorem takeId : Runs P takeId :=
  still fun _ => rfl

theorem workspace : Runs P Service.workspace :=
  still fun _ => rfl

theorem throw (failure : Failure) : Runs P (throw failure : Handler α) :=
  still fun _ => rfl

theorem lift (outcome : Except Failure α) : Runs P (lift outcome) :=
  still fun _ => rfl

theorem ofRefusal (outcome : Except Refusal α) : Runs P (ofRefusal outcome) :=
  still fun _ => rfl

theorem ofFault (outcome : Except Fault α) : Runs P (ofFault outcome) :=
  still fun _ => rfl

theorem exchange (steps : Exchange α) : Runs P (exchange steps) :=
  still fun _ => rfl

theorem bind {handler : Handler α} {next : α → Handler β} (first : Runs P handler)
    (later : ∀ value, Runs P (next value)) : Runs P (handler >>= next) := by
  intro state
  obtain ⟨steps, reached, given⟩ := first state
  rw [Live.bind_on]
  rcases outcome : Live.on handler state with ⟨failure | value, middle⟩
  · rw [outcome] at reached
    exact ⟨steps, reached, given⟩
  · have reached : middle.workspace = state.workspace.after steps := by rwa [outcome] at reached
    obtain ⟨others, last, more⟩ := later value middle
    refine ⟨steps ++ others, ?_, fun step member => ?_⟩
    · rw [Workspace.after_append, ← reached]
      exact last
    · exact (List.mem_append.mp member).elim (given step) (more step)

theorem ite {condition : Prop} [Decidable condition] {yes no : Handler α} (first : Runs P yes)
    (second : Runs P no) : Runs P (if condition then yes else no) := by
  split
  · exact first
  · exact second

/-- A check before the rest of the steps. -/
theorem guard {condition : Prop} [Decidable condition] {failure : Failure}
    {stop : α → Handler β} {next : Handler β} (later : Runs P next) :
    Runs P (if condition then MonadExcept.throw failure >>= stop else next) :=
  ite (still fun _ => rfl) later

/-- A change that a call makes in the same way. -/
theorem change {f : Workspace → Except Failure (Workspace × α)}
    (same : ∀ ws, ∃ call : Workspace.Call, (f ws).map (·.1) = call.outcome ws ∧
      ∀ content ∈ call.contents, P content) : Runs P (change f) := by
  intro state
  obtain ⟨call, made, given⟩ := same state.workspace
  refine ⟨[.call call], ?_, by simpa [Workspace.Step.contents] using given⟩
  rw [change_on, Workspace.after, List.foldl_cons, List.foldl_nil]
  cases done : f state.workspace with
  | error failure =>
    rw [done] at made
    rw [Workspace.step_error made.symm]
  | ok result =>
    rw [done] at made
    rw [Workspace.step_ok made.symm]

theorem changeStore {f : Store → Except Refusal (Store × α)}
    (same : ∀ store, ∃ call : Store.Call, (Failure.ofRefusal (f store)).map (·.1) = call.outcome store ∧
      ∀ content ∈ call.contents, P content) : Runs P (changeStore f) := by
  refine change fun ws => ?_
  obtain ⟨call, made, given⟩ := same ws.store
  refine ⟨.onStore call, ?_, given⟩
  rw [Workspace.Call.outcome, ← made]
  cases f ws.store with
  | error reason => rfl
  | ok result => rfl

end Runs

/-- What a request says is a content like any other, if it is a text. -/
def IsText (content : Json) : Prop :=
  ∃ t, content = .str t

section
variable {request : Json} {path : Text}

theorem runs_showConfig : Runs IsText showConfig :=
  .bind .get fun _ => .pure _

theorem runs_showTree : Runs IsText showTree :=
  .bind .workspace fun _ => .bind (.ofFault _) fun _ => .pure _

theorem runs_toggle : Runs IsText (toggle request) := by
  refine .bind (.lift _) fun given => .guard (.bind (.change fun ws => ?_) fun _ => .pure _)
  exact ⟨.toggleFolder (Text.trim given), rfl, by simp [Workspace.Call.contents]⟩

theorem runs_writeFile : Runs IsText (writeFile path request) := by
  refine .bind (.lift _) fun content => .bind (.changeStore fun store => ?_) fun _ => .pure _
  refine ⟨.write path (.str content), ?_, by simp [Store.Call.contents, IsText]⟩
  rw [Store.Call.outcome]
  cases store.write path (.str content) <;> rfl

/-- Only an action can bring a content that is no text. -/
theorem runs_act {P : Json → Prop} {action : Action}
    (given : ∀ content ∈ Workspace.contentsOf action, P content) : Runs P (act action) :=
  .bind (.change fun _ => ⟨.apply action, rfl, given⟩) fun _ => .pure _

theorem runs_deleteFile {query : Table Text} : Runs IsText (deleteFile path query) :=
  runs_act (by simp [Workspace.contentsOf])

theorem runs_showFile : Runs IsText (showFile path) :=
  .bind .workspace fun _ => .bind (.ofRefusal _) fun _ => .pure _

theorem runs_newFile : Runs IsText (newFile request) := by
  refine .bind (.lift _) fun typed => .guard (.bind (.ofFault _) fun folder => .bind (.ofRefusal _)
    fun path => .bind (.lift _) fun content => .bind (.changeStore fun store => ?_) fun _ => .pure _)
  refine ⟨.create path folder.truthy (.str content), rfl, ?_⟩
  cases folder.truthy <;> simp [Store.Call.contents, IsText]

theorem runs_convert : Runs IsText (convert request) :=
  .bind (.lift _) fun _ => .bind (.lift _) fun _ => .bind .get fun _ => .bind (.ofFault _) fun _ =>
    .bind (.ofFault _) fun _ => .pure _

theorem runs_preview : Runs IsText (preview path) :=
  .bind .get fun _ => .bind (.ofRefusal _) fun _ => .bind (.ofFault _) fun _ =>
    .bind (.ofFault _) fun _ => .pure _

theorem runs_showSettings : Runs IsText showSettings :=
  .bind .workspace fun _ => .pure _

theorem runs_changeSettings : Runs IsText (changeSettings request) := by
  refine .bind (.ofFault _) fun theme => .bind (.ofFault _) fun autoDetect =>
    .bind (.change fun ws => ?_) fun _ => runs_showSettings
  exact ⟨.updateSettings theme autoDetect, rfl, by simp [Workspace.Call.contents]⟩

theorem runs_insertTemplate : Runs IsText (insertTemplate request) :=
  .bind (.lift _) fun _ => .bind (.lift _) fun _ => .bind (.ofRefusal _) fun _ => .pure _

theorem runs_download : Runs IsText download :=
  .bind .get fun _ => .bind (.ofFault _) fun _ => .pure _

theorem runs_deploy : Runs IsText (deploy request) := by
  refine .bind .get fun state => .bind (.lift _) fun _ => .bind (.lift _) fun labName =>
    .bind (.lift _) fun authorName => .bind (.ofRefusal _) fun _ => .guard (.bind (.lift _) fun _ =>
      .bind (.ofFault _) fun _ => .bind (.still fun _ => rfl) fun _ => .bind (.lift _) fun _ =>
        .bind (.exchange _) fun _ => .bind .takeId fun id => .bind (.change fun ws => ?_) fun _ =>
          .pure _)
  exact ⟨.recordSubmission id state.clock labName authorName, rfl, by simp [Workspace.Call.contents]⟩

theorem runs_showSubmissions : Runs IsText showSubmissions :=
  .bind .workspace fun _ => .pure _

theorem runs_restore {id : Text} : Runs IsText (restore id) :=
  .bind (.change fun _ => ⟨.restoreSubmission id, rfl, by simp [Workspace.Call.contents]⟩)
    fun _ => .pure _

/-- What was made of a lab stays if the answer fails. -/
theorem runs_scaffold : Runs IsText (scaffold request) := by
  refine .bind (.lift _) fun title => .bind (.lift _) fun image state => ?_
  refine ⟨[.scaffold (orElse title Lab.defaultTitle) (orElse image Lab.defaultImage)], ?_,
    by simp [Workspace.Step.contents]⟩
  refine Eq.trans ?_ (Workspace.step_scaffold state.workspace _ _).symm
  simp only [Live.bind_on, workspace, get_on, Live.pure_on]
  obtain ⟨store, failure | created⟩ := Lab.scaffold state.workspace.store
    (orElse title Lab.defaultTitle) (orElse image Lab.defaultImage)
  · rfl
  · rfl

theorem runs_index : Runs IsText (index request) := by
  refine .bind (.lift _) fun title => .guard (.bind (.lift _) fun description =>
    .bind (.lift _) fun image => .bind .workspace fun ws => .bind (.ofFault _) fun files =>
      .bind (.changeStore fun store => ?_) fun _ => .pure _)
  let content : Text :=
    (Lab.describe (Text.trim title) description (orElse image Lab.defaultImage) files).indented
  cases store.has Lab.indexFile with
  | true =>
    refine ⟨.write Lab.indexFile (.str content), ?_, by simp [Store.Call.contents, IsText]⟩
    rw [Store.Call.outcome, if_pos rfl]
    cases store.write Lab.indexFile _ <;> rfl
  | false =>
    refine ⟨.create Lab.indexFile false (.str content), ?_, by simp [Store.Call.contents, IsText]⟩
    rw [Store.Call.outcome, if_neg Bool.false_ne_true]
    cases store.create Lab.indexFile false _ <;> rfl

end

end LabEditor.Service
