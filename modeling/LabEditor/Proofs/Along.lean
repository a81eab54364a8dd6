/-! Steps taken one after the other, and what is asked of each where it is taken. -/
namespace LabEditor
variable {σ τ : Type} {step : σ → τ → σ} {asked : σ → τ → Prop}

/-- Whether each step is as asked of it in the state that the steps before it lead to. -/
def Along (step : σ → τ → σ) (asked : σ → τ → Prop) : σ → List τ → Prop
  | _, [] => True
  | state, first :: steps => asked state first ∧ Along step asked (step state first) steps

instance decidableAlong [∀ state taken, Decidable (asked state taken)] :
    (state : σ) → (steps : List τ) → Decidable (Along step asked state steps)
  | _, [] => inferInstanceAs (Decidable True)
  | state, first :: steps => @instDecidableAnd _ _ _ (decidableAlong (step state first) steps)

/-- If a step leads to a good state exactly when it is as asked, and what makes that so is kept as long
as the states are good, then all states of a run are good exactly when all of its steps are. -/
theorem along_iff {I P : σ → Prop} (good : ∀ state, I state → P state)
    (one : ∀ state taken, I state → (P (step state taken) ↔ asked state taken))
    (keeps : ∀ state taken, I state → P (step state taken) → I (step state taken))
    {state : σ} (start : I state) (steps : List τ) :
    (∀ n, P ((steps.take n).foldl step state)) ↔ Along step asked state steps := by
  induction steps generalizing state with
  | nil => exact iff_of_true (fun n => by rw [List.take_nil]; exact good state start) trivial
  | cons first steps ih =>
    rw [Along, ← one state first start]
    constructor
    · intro all
      have here : P (step state first) := all 1
      exact ⟨here, (ih (keeps state first start here)).mp fun n => all (n + 1)⟩
    · rintro ⟨here, later⟩ n
      cases n with
      | zero => exact good state start
      | succ n => exact (ih (keeps state first start here)).mpr later n

end LabEditor
