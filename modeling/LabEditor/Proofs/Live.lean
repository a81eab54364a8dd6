import LabEditor.Proofs.Outcome

/-! Calls as steps on a state. What a step has changed stays changed when a later one fails, so that
it is something to prove of a call, not of its type, that it leaves the state alone when it fails. -/
namespace LabEditor

abbrev Live (σ α : Type) := ExceptT Failure (StateM σ) α

namespace Live
variable {σ α β : Type}

/-- What comes of the steps, and the state that they leave behind. -/
def on (steps : Live σ α) (state : σ) : Except Failure α × σ :=
  steps.run.run state

/-- The state as it is now. -/
def state : Live σ σ :=
  get

/-- A step that changes nothing. -/
def lift (outcome : Except Failure α) : Live σ α :=
  ExceptT.mk (pure outcome)

def ofRefusal (outcome : Except Refusal α) : Live σ α :=
  lift (Failure.ofRefusal outcome)

def ofFault (outcome : Except Fault α) : Live σ α :=
  lift (Failure.ofFault outcome)

def refuse (reason : Refusal) : Live σ α :=
  throw (.refusal reason)

/-- The steps for what they do alone. -/
def ignore (steps : Live σ α) : Live σ Unit := do
  let _ ← steps

/-- The outcome of a call that leaves the state alone unless it succeeds. -/
def whole (state : σ) : Except Failure (σ × α) → Except Failure α × σ
  | .ok (next, value) => (.ok value, next)
  | .error failure => (.error failure, state)

@[simp] theorem pure_on (value : α) (state : σ) : (pure value : Live σ α).on state = (.ok value, state) :=
  rfl

@[simp] theorem bind_on (steps : Live σ α) (next : α → Live σ β) (state : σ) :
    (steps >>= next).on state = match steps.on state with
      | (.ok value, state) => (next value).on state
      | (.error failure, state) => (.error failure, state) := by
  change (match steps state with
    | (outcome, state) => ExceptT.bindCont next outcome state) = _
  rw [on, StateT.run, ExceptT.run]
  cases steps state with
  | mk outcome after => cases outcome <;> rfl

@[simp] theorem state_on (now : σ) : (state : Live σ σ).on now = (.ok now, now) := rfl

@[simp] theorem modify_on (change : σ → σ) (state : σ) :
    (modify change : Live σ PUnit).on state = (.ok ⟨⟩, change state) := rfl

@[simp] theorem lift_on (outcome : Except Failure α) (state : σ) :
    (lift outcome : Live σ α).on state = (outcome, state) := rfl

@[simp] theorem ofRefusal_on (outcome : Except Refusal α) (state : σ) :
    (ofRefusal outcome).on state = (Failure.ofRefusal outcome, state) := rfl

@[simp] theorem ofFault_on (outcome : Except Fault α) (state : σ) :
    (ofFault outcome).on state = (Failure.ofFault outcome, state) := rfl

@[simp] theorem ite_on (condition : Prop) [Decidable condition] (yes no : Live σ α) (state : σ) :
    (if condition then yes else no).on state = if condition then yes.on state else no.on state := by
  split <;> rfl

@[simp] theorem whole_ok (state next : σ) (value : α) :
    whole state (.ok (next, value)) = (.ok value, next) := rfl

/-- Whatever holds before a call that leaves the state alone when it fails, and after it succeeds. -/
theorem whole_keeps {P : σ → Prop} {state : σ} {outcome : Except Failure (σ × α)} (before : P state)
    (after : ∀ next value, outcome = .ok (next, value) → P next) : P (whole state outcome).2 := by
  cases outcome with
  | error failure => exact before
  | ok result => exact after result.1 result.2 rfl

theorem ignore_after (steps : Live σ α) (state : σ) :
    ((ignore steps).on state).2 = (steps.on state).2 := by
  rw [ignore, bind_on]
  rcases steps.on state with ⟨_ | _, after⟩ <;> rfl

theorem ignore_on {steps : Live σ α} {state : σ} (same : steps.on state = whole state outcome) :
    (ignore steps).on state = whole state ((outcome.map (·.1)).map fun next => (next, ())) := by
  rw [ignore, bind_on, same]
  cases outcome <;> rfl

end Live

end LabEditor
