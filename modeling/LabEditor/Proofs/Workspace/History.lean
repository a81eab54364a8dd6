import LabEditor.Proofs.Workspace.Saving

/-! The submissions of a workspace over its whole history. A log is kept beside the run of all that was
ever recorded; the workspace remembers the newest part of it, through edits, restores and reloads, and
each of these submissions can be put back as it was recorded. -/
namespace LabEditor.Workspace

open Record (Written)

variable {ws next : Workspace}

/-- What was recorded as a submission: the names it was given, and the records of that moment. -/
structure Recorded where
  id : Text
  labName : Text
  authorName : Text
  timestamp : Text
  records : List Record

/-- What is recorded of a workspace as it is now. -/
def recorded (ws : Workspace) (labels : Labels) : Recorded :=
  ⟨labels.id, labels.labName, labels.authorName, labels.clock.timestamp, ws.store.records⟩

/-- How a workspace remembers it. -/
def Recorded.submission (recorded : Recorded) : Submission where
  id := .str recorded.id
  labName := .str recorded.labName
  authorName := .str recorded.authorName
  timestamp := .str recorded.timestamp
  files := recorded.records.map fun record => (.str record.path, record.written)

theorem recordSubmission_recorded (plain : ws.store.strays = .none) (id : Text) (clock : Clock)
    (labName authorName : Text) :
    (ws.recordSubmission id clock labName authorName).2 =
      (ws.recorded ⟨id, clock, labName, authorName⟩).submission := by
  have files : ws.store.listing.map (fun record => (record.path, record)) =
      ws.store.records.map fun record => (.str record.path, record.written) := by
    rw [Store.listing_plain plain, List.map_map]
    rfl
  rw [recordSubmission, files]
  rfl

/-- The submissions after a record is made under given names, or none is. The oldest is forgotten if
there is no room for more. -/
def remembered (ws : Workspace) : Option Labels → List Submission
  | some labels => (ws.recorded labels).submission :: ws.submissions.take (maxSubmissions - 1)
  | none => ws.submissions

theorem Leads.submissions (leads : Leads ws contents texts labels? next)
    (plain : ws.store.strays = .none) :
    next.submissions = ws.remembered labels? := by
  cases leads with
  | records call given worded done => exact withStore_submissions _ _
  | relocated worded relocated => exact save_submissions _
  | deleted deleted => exact save_submissions _
  | toggled folder => exact save_submissions _
  | settings settings => exact save_submissions _
  | submitted id clock labName authorName worded =>
    rw [remembered, ← recordSubmission_recorded plain]
    exact save_submissions _
  | restored known replaced => exact withStore_submissions _ _

def Step.labels? : Step → Option Labels
  | .call made => made.labels?
  | .scaffold _ _ => none

theorem step_submissions (plain : ws.store.strays = .none) (step : Step) :
    (ws.step step).submissions = ws.remembered step.labels? := by
  cases step with
  | call call =>
    cases done : call.outcome ws with
    | error failure =>
      rw [step_error done]
      cases call with
      | recordSubmission id clock labName authorName => contradiction
      | _ => rfl
    | ok next =>
      rw [step_ok done]
      exact (Leads.outcome call done).submissions plain
  | scaffold title image =>
    rw [step_scaffold]
    exact withStore_submissions _ _

/-- A workspace with all that was ever recorded, the newest first. -/
structure History where
  ws : Workspace
  log : List Recorded

/-- What can happen to a workspace: a step, or that its file is opened again. -/
inductive Event where
  | step (step : Step)
  | reload

def Event.contents : Event → List Json
  | .step taken => taken.contents
  | .reload => []

/-- No text that an event brings holds a character as its two halves. -/
def Event.Joined : Event → Prop
  | .step taken => taken.Joined
  | .reload => True

instance : DecidablePred Event.Joined
  | .step taken => inferInstanceAs (Decidable taken.Joined)
  | .reload => .isTrue trivial

namespace History
variable {history : History}

def logged (history : History) : Option Labels → List Recorded
  | some labels => history.ws.recorded labels :: history.log
  | none => history.log

/-- What an event leads to, where files are read up to a limit of nesting. A file that cannot be opened
leaves all as it is. -/
def extend (limit : Nat) (history : History) : Event → History
  | .step step => ⟨history.ws.step step, history.logged step.labels?⟩
  | .reload =>
    match Workspace.reload limit history.ws with
    | .ok ws => { history with ws }
    | .error _ => history

def after (limit : Nat) (start : Workspace) (events : List Event) : History :=
  events.foldl (extend limit) ⟨start, []⟩

/-- What holds all along a history, in which files are read again or never are. -/
structure Sound (limit : Nat) (rereads : Prop) (history : History) : Prop where
  sound : history.ws.Sound
  proper : history.ws.Proper
  joined : rereads → history.ws.Joined
  log : ∀ recorded ∈ history.log, ∃ past : Store, past.Sound ∧ recorded.records = past.records
  submissions : history.ws.submissions = (history.log.take maxSubmissions).map Recorded.submission
  saved : history.ws.disk = .detached ∨ history.ws.disk = .holds history.ws.fileContent ∨
    Workspace.reload limit history.ws = .ok history.ws

namespace Sound
variable {limit : Nat} {rereads : Prop}

theorem step (sound : history.Sound limit rereads) (step : Step)
    (given : ∀ content ∈ step.contents, content.Proper) (joined : rereads → step.Joined) :
    (history.extend limit (.step step)).Sound limit rereads where
  sound := sound.sound.step step
  proper := sound.proper.step sound.sound step given
  joined := fun read =>
    (sound.joined read).step sound.sound step (joined read)
  log := by
    intro recorded member
    simp only [extend] at member
    cases here : step.labels? with
    | some labels =>
      rw [here] at member
      rcases List.mem_cons.mp member with rfl | before
      · exact ⟨history.ws.store, sound.sound.store, rfl⟩
      · exact sound.log recorded before
    | none =>
      rw [here] at member
      exact sound.log recorded member
  submissions := by
    simp only [extend, step_submissions sound.sound.store.plain step]
    cases step.labels? with
    | some labels =>
      rw [remembered, logged, sound.submissions, ← List.map_take, List.take_take]
      rfl
    | none => exact sound.submissions
  saved := by
    rcases Kept.step history.ws step with same | ⟨changed, disk, same⟩
    · simp only [extend, same]
      exact sound.saved
    · simp only [extend, same]
      by_cases attached : changed.disk = .detached
      · have kept : Kept changed changed.save := Kept.saved rfl
        exact Or.inl (kept.attached.mpr attached)
      · exact Or.inr (Or.inl (Kept.save_disk attached))

theorem reload (sound : history.Sound limit rereads) (read : rereads) :
    (history.extend limit .reload).Sound limit rereads := by
  have joined := sound.joined read
  rw [extend]
  cases opened : Workspace.reload limit history.ws with
  | error cause => exact sound
  | ok ws =>
    rcases sound.saved with detached | holds | same
    · rw [Workspace.reload, detached] at opened
      contradiction
    · rcases reload_saved limit sound.sound sound.proper (joined.toJson sound.sound) holds with read | ⟨_, cause, failed⟩
      · rw [read] at opened
        cases opened
        have content : (history.ws.reread history.ws.disk).fileContent =
            history.ws.fileContent :=
          congrArg Json.indented (reread_toJson history.ws _)
        exact ⟨sound.sound.reread _, sound.proper.reread _, fun _ => joined.reread _, sound.log,
          sound.submissions, Or.inr (Or.inl (content ▸ holds))⟩
      · rw [failed] at opened
        contradiction
    · rw [same] at opened
      cases opened
      exact sound

/-- A history that starts with an empty workspace, whose file is missing or is read as empty. -/
theorem after (disk : Disk)
    (start : disk = .detached ∨ Workspace.reload limit (empty disk) = .ok (empty disk))
    (events : List Event)
    (given : ∀ event ∈ events, ∀ content ∈ event.contents, content.Proper)
    (joined : rereads → ∀ event ∈ events, event.Joined) (reads : .reload ∈ events → rereads) :
    (History.after limit (empty disk) events).Sound limit rereads := by
  have first : (⟨empty disk, []⟩ : History).Sound limit rereads := by
    refine ⟨Workspace.Sound.empty disk, Proper.empty disk, fun _ => Joined.empty disk, by simp, rfl, ?_⟩
    exact start.imp_right Or.inr
  induction events using List.reverseRecOn with
  | nil => exact first
  | append_singleton events event ih =>
    obtain ⟨earlier, last⟩ := List.forall_mem_append.mp given
    have sound := ih earlier
      (fun read event member => joined read event (List.mem_append_left _ member))
      fun member => reads (List.mem_append_left _ member)
    have own : event ∈ events ++ [event] := List.mem_append_right _ List.mem_cons_self
    rw [History.after, List.foldl_append]
    cases event with
    | step step => exact sound.step step (last _ List.mem_cons_self) fun read => joined read _ own
    | reload => exact sound.reload (reads own)

end Sound

end History

end LabEditor.Workspace
