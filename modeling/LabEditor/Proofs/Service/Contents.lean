import LabEditor.Proofs.Along
import LabEditor.Proofs.Conversion
import LabEditor.Proofs.Service.Handler

/-! What the contents of a workspace are that only answers to requests have changed. All endpoints
but one take texts alone; an action takes the content of a new file as it comes. -/
namespace LabEditor

namespace Service
variable {state : State} {request : Request}

/-- The action that the body of a request names. -/
def readAction (request : Request) : Except Failure Action := do
  Action.ofJson (← Failure.ofFault request.body)

/-- A request is carried out by an endpoint. -/
structure Carries (request : Request) (endpoint : Endpoint) : Prop where
  found : Endpoint.ofPath? request.method request.path = some endpoint
  accepted : endpoint.accepts request.method = true

/-- A request puts a content into a new file just as it is. -/
def Brings (request : Request) (ws : Workspace) (content : Json) : Prop :=
  Carries request .actions ∧ ∃ parent name next answer,
    readAction request = .ok (.createFile parent name content) ∧
      Action.apply ws (.createFile parent name content) = .ok (next, answer)

/-- The state that the answer to a request leaves behind. -/
def answer (state : State) (request : Request) : State :=
  (respond request state).2

theorem runs_handle (endpoint : Endpoint) (other : endpoint ≠ .actions) :
    Runs IsText (handle request endpoint) := by
  cases endpoint with
  | page => exact .pure _
  | config => exact runs_showConfig
  | tree => exact runs_showTree
  | toggle => exact .bind (.ofFault _) fun _ => runs_toggle
  | file path =>
    exact .ite (.bind (.ofFault _) fun _ => runs_writeFile) (.ite runs_deleteFile runs_showFile)
  | newFile => exact .bind (.ofFault _) fun _ => runs_newFile
  | actions => contradiction
  | convert => exact .bind (.ofFault _) fun _ => runs_convert
  | preview path => exact runs_preview
  | settings => exact .ite (.bind (.ofFault _) fun _ => runs_changeSettings) runs_showSettings
  | templates => exact .pure _
  | insertTemplate => exact .bind (.ofFault _) fun _ => runs_insertTemplate
  | download => exact runs_download
  | deploy => exact .bind (.ofFault _) fun _ => runs_deploy
  | submissions => exact runs_showSubmissions
  | restore id => exact runs_restore
  | scaffold => exact .bind (.ofFault _) fun _ => runs_scaffold
  | index => exact .bind (.ofFault _) fun _ => runs_index

theorem answer_on (here : Carries request endpoint) :
    answer state request = (Live.on (handle request endpoint) state).2 := by
  rw [answer, respond, here.found]
  dsimp only
  rw [if_pos here.accepted]
  rfl

theorem answer_still (state : State) (none : ∀ endpoint, ¬ Carries request endpoint) :
    answer state request = state := by
  rw [answer, respond]
  cases found : Endpoint.ofPath? request.method request.path with
  | none => rfl
  | some endpoint =>
    dsimp only
    rw [if_neg fun accepted => none endpoint ⟨found, accepted⟩]
    split
    · rfl
    · rfl

theorem act_on (action : Action) (state : State) :
    (Live.on (act action) state).2.workspace = state.workspace.step (.call (.apply action)) := by
  have call : (Workspace.Call.apply action).outcome state.workspace =
      (action.apply state.workspace).map (·.1) := rfl
  rw [act, Live.bind_on, change_on]
  cases applied : action.apply state.workspace with
  | error failure => exact (Workspace.step_error (by rw [call, applied]; rfl)).symm
  | ok result => exact (Workspace.step_ok (by rw [call, applied]; rfl)).symm

theorem actions_on (state : State) (request : Request) :
    (Live.on (handle request .actions) state).2.workspace = match readAction request with
      | .ok action => state.workspace.step (.call (.apply action))
      | .error _ => state.workspace := by
  rw [handle, Live.bind_on, handle.body, ofFault_on, readAction]
  cases Failure.ofFault request.body with
  | error failure => rfl
  | ok body =>
    dsimp only
    rw [Live.bind_on, lift_on, Outcome.ok_bind]
    cases Action.ofJson body with
    | error failure => rfl
    | ok action => exact act_on action state

theorem answer_acts (here : Carries request .actions)
    (read : readAction request = .ok action) :
    (answer state request).workspace = state.workspace.step (.call (.apply action)) := by
  rw [answer_on here, actions_on, read]

/-- A request that names no action brings texts alone, whatever else it does. -/
theorem answer_runs (state : State)
    (none : ∀ action, ¬ (Carries request .actions ∧ readAction request = .ok action)) :
    ∃ steps : List Workspace.Step, (answer state request).workspace = state.workspace.after steps ∧
      ∀ step ∈ steps, ∀ content ∈ step.contents, IsText content := by
  by_cases still : ∀ endpoint, ¬ Carries request endpoint
  · refine ⟨[], ?_, fun _ none => absurd none List.not_mem_nil⟩
    rw [answer_still state still]
    rfl
  · obtain ⟨endpoint, here⟩ := not_forall_not.mp still
    rw [answer_on here]
    by_cases acts : endpoint = .actions
    · subst acts
      refine ⟨[], ?_, fun _ none => absurd none List.not_mem_nil⟩
      rw [actions_on]
      cases read : readAction request with
      | error failure => rfl
      | ok action => exact absurd ⟨here, read⟩ (none action)
    · exact runs_handle endpoint acts state

/-- A sound workspace with texts alone. -/
structure Textual (ws : Workspace) : Prop where
  sound : ws.Sound
  bears : ws.Bears IsText

theorem Textual.of_steps {ws : Workspace} (textual : Textual ws) (steps : List Workspace.Step)
    (given : ∀ step ∈ steps, ∀ content ∈ step.contents, IsText content) :
    Textual (ws.after steps) :=
  ⟨textual.sound.after steps, textual.bears.after ⟨[], rfl⟩ (fun _ t _ => ⟨t, rfl⟩) textual.sound steps
    given⟩

/-- What a request asks for: the contents that it brings are to be texts. -/
def Plain (state : State) (request : Request) : Prop :=
  ∀ content, Brings request state.workspace content → IsText content

theorem Textual.answer (textual : Textual state.workspace) (plain : Plain state request) :
    Textual (answer state request).workspace := by
  by_cases acts : ∃ action, Carries request .actions ∧ readAction request = .ok action
  · obtain ⟨action, here, read⟩ := acts
    rw [answer_acts here read]
    rcases Workspace.step_call state.workspace (.apply action) with same | done
    · rwa [same]
    · have leads := Workspace.Leads.outcome _ done
      refine ⟨textual.sound.leads leads, textual.bears.leads ⟨[], rfl⟩ textual.sound ?_ leads⟩
      obtain ⟨⟨next, members⟩, applied, _⟩ := Outcome.map_eq_ok.mp done
      cases action with
      | createFile parent name content =>
        intro given member
        cases List.mem_singleton.mp member
        exact plain content ⟨here, parent, name, next, members, read, applied⟩
      | _ => exact fun _ none => absurd none List.not_mem_nil
  · obtain ⟨steps, same, given⟩ := answer_runs state (not_exists.mp acts)
    rw [same]
    exact textual.of_steps steps given

/-- A content that was brought is one of the store. -/
theorem plain_of_texts (textual : Textual state.workspace)
    (texts : (answer state request).workspace.store.Bears IsText) : Plain state request := by
  rintro content ⟨here, parent, name, next, members, read, applied⟩
  have made := applied
  obtain ⟨⟨store, record⟩, created, same⟩ := Outcome.bind_ok.mp applied
  cases same
  have done : (Workspace.Call.apply (.createFile parent name content)).outcome state.workspace =
      .ok (state.workspace.withStore store) := Outcome.map_eq_ok.mpr ⟨_, made, rfl⟩
  rw [answer_acts here read, Workspace.step_ok done, Workspace.withStore_store] at texts
  exact (textual.bears.store.create_iff ⟨[], rfl⟩ (Outcome.ofRefusal_eq_ok.mp created)).mp texts rfl

/-- All along a run of requests the contents are texts exactly if each content that an action brings is
one. A file with such a content is converted as its text is. -/
theorem contents_texts_iff_plain (base : State) (disk : Disk)
    (requests : List Request) :
    let start : State := { base with workspace := .empty disk }
    ((∀ n, ((requests.take n).foldl answer start).workspace.store.Bears IsText) ↔
        Along answer Plain start requests) ∧
      (Along answer Plain start requests →
        ∀ entry ∈ (requests.foldl answer start).workspace.store.files, ∀ auto,
          ∃ t, entry.2.content = .str t ∧
            convertContent entry.1 entry.2.content auto = (convertFile entry.1 t auto).map .str) := by
  intro start
  have empty : Textual start.workspace := ⟨Workspace.Sound.empty disk, Workspace.Bears.empty disk⟩
  have along : (∀ n, ((requests.take n).foldl answer start).workspace.store.Bears IsText) ↔
      Along answer Plain start requests := by
    refine along_iff (I := fun state : State => Textual state.workspace)
      (P := fun state : State => state.workspace.store.Bears IsText) ?_ ?_ ?_ empty requests
    · exact fun state textual => textual.bears.store
    · exact fun state request textual =>
        ⟨plain_of_texts textual, fun plain => (textual.answer plain).bears.store⟩
    · exact fun state request textual texts => textual.answer (plain_of_texts textual texts)
  refine ⟨along, fun plain entry member auto => ?_⟩
  have texts := along.mpr plain requests.length
  rw [List.take_length] at texts
  obtain ⟨t, same⟩ := texts entry member
  exact ⟨t, same, same ▸ convertContent_text entry.1 t auto⟩

/-- The content of a new file may be a number, and the file cannot be shown then. -/
theorem number_as_content :
    let start : State := ⟨Config.defaults, .empty .absent, ⟨fun _ _ => .broken, [], [], 100⟩,
      fun t => t, Clock.ofSeconds 0, Text.hexDigits 32, []⟩
    let body : Json := .obj [("op", .str "createFile"), ("name", .str "a.md"), ("content", .int 5)]
    let state := answer start ⟨"POST", "/api/ops", [], .ok body⟩
    ¬ state.workspace.store.Bears IsText ∧
      (respond ⟨"GET", "/api/preview/a.md", [], .ok .null⟩ state).1.status = 500 := by
  intro start body state
  have held : (("a.md" : Text), (⟨.str "a.md", "a.md", .int 5, false⟩ : Record)) ∈
      state.workspace.store.files := List.mem_singleton.mpr rfl
  refine ⟨fun texts => ?_, rfl⟩
  obtain ⟨t, same⟩ := texts _ held
  contradiction

end Service
end LabEditor
