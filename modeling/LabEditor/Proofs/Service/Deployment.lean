import LabEditor.Proofs.Deployment.Session
import LabEditor.Proofs.Service.Handler
import Mathlib

/-! A deployment and the workspace: nothing is sent before all checks have passed, and the workspace
changes only after the last request has been answered. -/
namespace LabEditor.Service
open Deployment

/-- The checks of a deployment in their order, and what it has to work with if they pass. -/
def planOf (state : State) (request : Json) : Except Failure Plan := do
  let paths ← selection request
  let labName ← textField request "labName"
  let authorName ← textField request "authorName"
  let folder ← Failure.ofRefusal (labFolder labName authorName)
  let owner := Config.setting state.config "github_owner"
  let repository := Config.setting state.config "github_repo"
  if !(owner.truthy && repository.truthy) then throw (.refusal .noRepository)
  let files ← selectedFiles state.workspace paths
  let client ← Failure.ofFault (clientOf state.config)
  let message ← textField request "message"
  if files.isEmpty then throw (.refusal .nothingSelected)
  pure {
    client
    branch := (Config.setting state.config "github_branch").display
    labName
    authorName
    folder
    message := if message.isEmpty then "Deploy " ++ folder else message
    files }

/-- The files of a plan are the selected ones in their order, with what the platform takes of each. -/
def Selected (ws : Workspace) (request : Json) (files : List (Text × Json)) : Prop :=
  ∃ paths records, selection request = .ok paths ∧ paths.mapM ws.store.get = .ok records ∧
    List.Forall₂ (fun record file => file.1 = record.path ∧
        convertContent record.path record.content ws.settings.autoDetect = .ok file.2)
      (records.filter fun record => !record.isDirectory) files

theorem selectedFiles_ok (found : selectedFiles ws paths = .ok files) :
    ∃ records, paths.mapM ws.store.get = .ok records ∧
      List.Forall₂ (fun record file => file.1 = record.path ∧
          convertContent record.path record.content ws.settings.autoDetect = .ok file.2)
        (records.filter fun record => !record.isDirectory) files := by
  induction paths generalizing files with
  | nil =>
    cases found
    exact ⟨[], rfl, .nil⟩
  | cons path paths ih =>
    obtain ⟨record, known, found⟩ := Outcome.bind_ok.mp found
    have known := Outcome.ofRefusal_eq_ok.mp known
    by_cases folder : record.isDirectory = true
    · rw [if_pos folder] at found
      obtain ⟨records, listed, taken⟩ := ih found
      refine ⟨record :: records, ?_, ?_⟩
      · rw [List.mapM_cons, known, Outcome.ok_bind, listed]
        rfl
      · rwa [List.filter_cons, folder]
    · rw [if_neg folder] at found
      obtain ⟨content, converted, found⟩ := Outcome.bind_ok.mp found
      obtain ⟨rest, later, found⟩ := Outcome.bind_ok.mp found
      cases found
      obtain ⟨records, listed, taken⟩ := ih later
      refine ⟨record :: records, ?_, ?_⟩
      · rw [List.mapM_cons, known, Outcome.ok_bind, listed]
        rfl
      · rw [List.filter_cons, Bool.eq_false_iff.mpr folder]
        exact .cons ⟨rfl, Outcome.ofFault_eq_ok.mp converted⟩ taken

theorem planOf_selected (planned : planOf state request = .ok plan) :
    Selected state.workspace request plan.files := by
  obtain ⟨paths, selected, planned⟩ := Outcome.bind_ok.mp planned
  obtain ⟨labName, _, planned⟩ := Outcome.bind_ok.mp planned
  obtain ⟨authorName, _, planned⟩ := Outcome.bind_ok.mp planned
  obtain ⟨folder, _, planned⟩ := Outcome.bind_ok.mp planned
  obtain ⟨_, planned⟩ := Outcome.guard_ok.mp planned
  obtain ⟨files, found, planned⟩ := Outcome.bind_ok.mp planned
  obtain ⟨client, _, planned⟩ := Outcome.bind_ok.mp planned
  obtain ⟨message, _, planned⟩ := Outcome.bind_ok.mp planned
  obtain ⟨_, planned⟩ := Outcome.guard_ok.mp planned
  cases planned
  obtain ⟨records, listed, taken⟩ := selectedFiles_ok found
  exact ⟨paths, records, selected, listed, taken⟩

/-- What is left to do when all checks have passed. -/
def carryOut (plan : Plan) : Handler Body := do
  let state ← get
  let commit ← exchange plan.steps
  let id ← takeId
  let submission ← change fun ws =>
    .ok (ws.recordSubmission id state.clock plan.labName plan.authorName)
  pure (done [("commit", commit), ("submission", submission.summary)])

/-- The state with the headers of a deployment's client. -/
def State.introduced (state : State) : State :=
  { state with connection := state.connection.withHeaders (clientHeaders state.token) }

/-- A check that fails ends the request, with or without headers; otherwise the plan is carried out. -/
def Checked (state : State) (result : Except Failure Body × State) : Except Failure Plan → Prop
  | .ok plan => result = Live.on (carryOut plan) state.introduced
  | .error failure => result = (.error failure, state) ∨ result = (.error failure, state.introduced)

theorem deploy_checked (state : State) (request : Json) :
    Checked state (Live.on (deploy request) state) (planOf state request) := by
  simp only [planOf, deploy, Live.bind_on, get_on, lift_on, ofRefusal_on]
  rcases selection request with failure | paths
  · exact Or.inl rfl
  simp only [Outcome.ok_bind]
  rcases textField request "labName" with failure | labName
  · exact Or.inl rfl
  simp only [Outcome.ok_bind]
  rcases textField request "authorName" with failure | authorName
  · exact Or.inl rfl
  simp only [Outcome.ok_bind]
  rcases place : labFolder labName authorName with reason | folder
  · exact Or.inl rfl
  simp only [Outcome.ofRefusal_ok, Outcome.ok_bind]
  rcases !((Config.setting state.config "github_owner").truthy &&
    (Config.setting state.config "github_repo").truthy) with configured | unconfigured
  case true => exact Or.inl rfl
  simp only [Bool.false_eq_true, if_false, Live.bind_on, lift_on, ofFault_on]
  rcases selectedFiles state.workspace paths with failure | files
  · exact Or.inl rfl
  simp only [Outcome.ok_bind]
  rcases clientOf state.config with cause | client
  · exact Or.inl rfl
  simp only [Outcome.ofFault_ok, Outcome.ok_bind, Live.modify_on]
  rcases textField request "message" with failure | message
  · exact Or.inr rfl
  simp only [Outcome.ok_bind]
  cases empty : files.isEmpty with
  | true =>
    simp only [exchange_on, deploy_nothing empty]
    exact Or.inr rfl
  | false =>
    simp only [deploy_steps empty place, Bool.false_eq_true, if_false, Checked, carryOut,
      Live.bind_on, get_on]
    rfl

/-- Nothing is sent once the steps of a plan are done. -/
theorem carryOut_connection (plan : Plan) (state : State) :
    (Live.on (carryOut plan) state).2.connection = (Live.on plan.steps state.connection).2 := by
  simp only [carryOut, Live.bind_on, get_on, exchange_on]
  rcases Live.on plan.steps state.connection with ⟨failure | commit, connection⟩
  · rfl
  · rfl

theorem carryOut_on (plan : Plan) (state : State)
    (fair : state.connection.Fairly (Live.on (carryOut plan) state).2.connection) :
    ∃ names sent complete,
      Talk state.connection.limit state.connection.answer state.connection.calls.length
        (plan.stages state.connection.limit names) sent complete ∧
      Live.on (carryOut plan) state =
        let spoken := { state with connection := state.connection.after plan.client sent }
        if complete then
          let (workspace, submission) :=
            state.workspace.recordSubmission (state.ids 0) state.clock plan.labName plan.authorName
          (.ok (done [("commit", .str names.commit), ("submission", submission.summary)]),
            { spoken with workspace, ids := fun n => state.ids (n + 1) })
        else (.error (.refusal .deploymentFailed), spoken) := by
  rw [carryOut_connection] at fair
  obtain ⟨names, sent, complete, talk, run⟩ := plan.steps_on state.connection fair
  refine ⟨names, sent, complete, talk, ?_⟩
  simp only [carryOut, Live.bind_on, get_on, exchange_on, run]
  cases complete with
  | false => rfl
  | true => rfl

/-- The answer to a request for a deployment, and the state after it. -/
def deployment (state : State) (body : Except Fault Json) : Response × State :=
  respond ⟨"POST", "/api/deploy", [], body⟩ state

theorem deployment_eq (state : State) (request : Json) :
    deployment state (.ok request) = (Response.ofOutcome (Live.on (deploy request) state).1,
      (Live.on (deploy request) state).2) := rfl

theorem deployment_unread (state : State) (cause : Fault) :
    deployment state (.error cause) = (.ofOutcome (.error (.fault cause)), state) := rfl

theorem deployment_refused {failure : Failure} (refused : planOf state request = .error failure) :
    deployment state (.ok request) = (.ofOutcome (.error failure), state) ∨
      deployment state (.ok request) = (.ofOutcome (.error failure), state.introduced) := by
  have checked := deploy_checked state request
  rw [refused] at checked
  rw [deployment_eq]
  rcases checked with same | same
  · exact Or.inl (by rw [same])
  · exact Or.inr (by rw [same])

theorem deployment_planned (planned : planOf state request = .ok plan) :
    deployment state (.ok request) =
      (Response.ofOutcome (Live.on (carryOut plan) state.introduced).1,
        (Live.on (carryOut plan) state.introduced).2) := by
  have checked := deploy_checked state request
  rw [planned, Checked] at checked
  rw [deployment_eq, checked]

/-- What changes in a workspace when its records are submitted: they are remembered in front of the
last submissions before. -/
def Submitted (ws next : Workspace) : Prop :=
  ∃ submission : Submission,
    submission.files = ws.store.listing.map (fun record => (record.path, record)) ∧
    next = { ws with
      submissions := submission :: ws.submissions.take (Workspace.maxSubmissions - 1) }.save

/-- Whatever a request asks for and however the other side answers: without a plan nothing is sent;
with one, the five requests go out one by one until the first failure. Only when all of them have
succeeded is the submission remembered, and nothing else changes in the workspace. -/
theorem deploy_all_or_nothing (state : State) (body : Except Fault Json)
    (fair : state.connection.Fairly (deployment state body).2.connection) :
    (∀ failure, Failure.ofFault body >>= planOf state = .error failure →
      (deployment state body).1 = .ofOutcome (.error failure) ∧
      (deployment state body).2.workspace = state.workspace ∧
      (deployment state body).2.connection.calls = state.connection.calls) ∧
    ∀ request plan, body = .ok request → planOf state request = .ok plan →
      Selected state.workspace request plan.files ∧
      ∃ names sent complete,
        Talk state.connection.limit state.connection.answer state.connection.calls.length
          (plan.stages state.connection.limit names) sent complete ∧
        (deployment state body).2.connection.calls =
          state.connection.calls ++ sent.map plan.client.call ∧
        (sent.map plan.client.call).map Call.wire <+: plan.wire names ∧
        (complete = true → sent.length = 5 ∧ (deployment state body).1.status = 200 ∧
          Submitted state.workspace (deployment state body).2.workspace) ∧
        (complete = false → (deployment state body).2.workspace = state.workspace ∧
          ∃ reason, reason.kind = .networkFailure ∧
            (deployment state body).1 = .ofOutcome (.error (.refusal reason))) := by
  constructor
  · intro failure failed
    cases body with
    | error cause =>
      cases failed
      rw [deployment_unread]
      exact ⟨rfl, rfl, rfl⟩
    | ok request =>
      rcases deployment_refused failed with same | same
      · rw [same]
        exact ⟨rfl, rfl, rfl⟩
      · rw [same]
        exact ⟨rfl, rfl, rfl⟩
  · rintro request plan rfl planned
    have whole := deployment_planned planned
    rw [whole] at fair
    obtain ⟨names, sent, complete, talk, run⟩ := carryOut_on plan state.introduced fair
    rw [run] at whole
    refine ⟨planOf_selected planned, names, sent, complete, talk, ?_, talk.wire_prefix, ?_, ?_⟩
    · rw [whole]
      cases complete <;> rfl
    · rintro rfl
      rw [whole, talk.all_sent]
      exact ⟨rfl, rfl, _, rfl, rfl⟩
    · rintro rfl
      rw [whole]
      exact ⟨rfl, .deploymentFailed, rfl, rfl⟩

/-- The other side takes all objects and then does not move the branch. -/
def stubborn : Deployment.Request → Reply
  | .branchHead _ => .answer 200 "\x7b\"object\": \x7b\"sha\": \"h1\"\x7d\x7d"
  | .commit _ => .answer 200 "\x7b\"tree\": \x7b\"sha\": \"t1\"\x7d\x7d"
  | .createTree .. => .answer 201 "\x7b\"sha\": \"t2\"\x7d"
  | .createCommit .. => .answer 201 "\x7b\"sha\": \"c2\"\x7d"
  | .moveBranch .. => .answer 422 "\x7b\x7d"

theorem stubborn_fair (request : Deployment.Request) : request.Fair 100 (stubborn request) := by
  cases request with
  | branchHead branch =>
    exact Or.inr ⟨"h1", .obj [("object", .obj [("sha", .str "h1")])], by cbv, rfl⟩
  | commit name => exact Or.inr ⟨"t1", .obj [("tree", .obj [("sha", .str "t1")])], by cbv, rfl⟩
  | createTree base blobs => exact Or.inr ⟨"t2", .obj [("sha", .str "t2")], by cbv, rfl⟩
  | createCommit message tree parent => exact Or.inr ⟨"c2", .obj [("sha", .str "c2")], by cbv, rfl⟩
  | moveBranch branch commit => exact Or.inl (.status (by decide) (by decide))

theorem deploy_all_or_nothing_stubborn :
    let store : Store :=
      ⟨[("run.sh", ⟨.str "run.sh", "run.sh", .str "exit 0", false⟩)], none, .none, 1⟩
    let config := Config.defaults.override
      [(.str "github_owner", .str "acme"), (.str "github_repo", .str "labs")]
    let state : State :=
      ⟨config, { Workspace.empty .absent with store }, ⟨fun _ => stubborn, [], [], 100⟩,
      fun t => t, Clock.ofSeconds 0, Text.hexDigits 32, []⟩
    let request : Json := .obj [("files", .arr [.str "run.sh"]), ("labName", .str "My Lab")]
    state.connection.Fairly (deployment state (.ok request)).2.connection ∧
      ∃ plan names sent, planOf state request = .ok plan ∧
        Talk 100 state.connection.answer 0 (plan.stages 100 names) sent false ∧
        (deployment state (.ok request)).2.connection.calls = sent.map plan.client.call ∧
        (deployment state (.ok request)).1.status = 502 ∧
        (deployment state (.ok request)).2.workspace = state.workspace := by
  intro store config state request
  have fair : state.connection.Fairly (deployment state (.ok request)).2.connection :=
    fun _ call _ _ => stubborn_fair call.request
  obtain ⟨plan, planned⟩ : ∃ plan, planOf state request = .ok plan := ⟨_, rfl⟩
  obtain ⟨_, names, sent, complete, talk, calls, _, _, fails⟩ :=
    (deploy_all_or_nothing state (.ok request) fair).2 request plan rfl planned
  cases complete with
  | true =>
    obtain ⟨value, holds⟩ := talk.answered (show (plan.stages 100 names)[4]? = some _ from rfl)
    exact absurd (.status (by decide) (by decide)) holds.not_failed
  | false =>
    obtain ⟨same, reason, kind, answer⟩ := fails rfl
    have status : reason.status = 502 := by rw [Refusal.status, kind]; rfl
    exact ⟨fair, plan, names, sent, planned, talk, calls, answer ▸ status, same⟩

end LabEditor.Service
