import LabEditor.Failure
import Mathlib.Data.List.Forall2

/-! Opening the outcomes of calls that may fail. -/
namespace LabEditor.Outcome
variable {ε α β : Type}

@[simp] theorem ok_bind (value : α) (next : α → Except ε β) : (Except.ok value >>= next) = next value :=
  rfl

@[simp] theorem error_bind (error : ε) (next : α → Except ε β) :
    (Except.error error >>= next) = .error error := rfl

@[simp] theorem map_ok (f : α → β) (value : α) : (Except.ok value : Except ε α).map f = .ok (f value) :=
  rfl

@[simp] theorem map_error (f : α → β) (error : ε) : (Except.error error).map f = .error error := rfl

@[simp] theorem pure_ok (value : α) : (pure value : Except ε α) = .ok value := rfl

@[simp] theorem throw_error (error : ε) : (throw error : Except ε α) = .error error := rfl

theorem bind_ok {outcome : Except ε α} {next : α → Except ε β} {result : β} :
    (outcome >>= next) = .ok result ↔ ∃ value, outcome = .ok value ∧ next value = .ok result := by
  cases outcome with
  | error error => simp
  | ok value => simp

theorem map_eq_ok {outcome : Except ε α} {f : α → β} {result : β} :
    outcome.map f = .ok result ↔ ∃ value, outcome = .ok value ∧ f value = result := by
  cases outcome with
  | error error => simp
  | ok value => simp

/-- A check that stands between the steps of a call. -/
theorem guard_ok {condition : Prop} [Decidable condition] {error : ε} {stop : α → Except ε β}
    {next : Except ε β} {result : β} :
    (if condition then throw error >>= stop else next) = .ok result ↔
      ¬ condition ∧ next = .ok result := by
  by_cases holds : condition
  · simp [holds]
  · simp [holds]

theorem guard_error {condition : Prop} [Decidable condition] {error reason : ε}
    {stop : α → Except ε β} {next : Except ε β} :
    (if condition then throw error >>= stop else next) = .error reason ↔
      (condition ∧ error = reason) ∨ (¬ condition ∧ next = .error reason) := by
  by_cases holds : condition
  · simp [holds]
  · simp [holds]

theorem mapM_eq_ok {xs : List α} {f : α → Except ε β} {g : α → β} (each : ∀ x ∈ xs, f x = .ok (g x)) :
    xs.mapM f = .ok (xs.map g) := by
  induction xs with
  | nil => rfl
  | cons x xs ih =>
    have first := each x List.mem_cons_self
    have rest := ih fun y member => each y (List.mem_cons_of_mem x member)
    rw [List.mapM_cons, first, rest]
    rfl

/-- A list that was written item by item is read back if each item is. -/
theorem mapM_map {xs : List α} {write : α → β} {read : β → Except ε α}
    (inverse : ∀ x ∈ xs, read (write x) = .ok x) : (xs.map write).mapM read = .ok xs := by
  rw [List.mapM_map]
  exact (mapM_eq_ok (g := id) inverse).trans (by rw [List.map_id])

theorem mapM_eq_ok_iff {xs : List α} {ys : List β} {f : α → Except ε β} :
    xs.mapM f = .ok ys ↔ List.Forall₂ (fun x y => f x = .ok y) xs ys := by
  induction xs generalizing ys with
  | nil =>
    rw [List.forall₂_nil_left_iff, List.mapM_nil, pure_ok, Except.ok.injEq, eq_comm]
  | cons x xs ih =>
    simp only [List.mapM_cons, bind_ok, List.forall₂_cons_left_iff, pure_ok, Except.ok.injEq, ih]
    constructor
    · rintro ⟨y, here, rest, later, rfl⟩
      exact ⟨y, rest, here, later, rfl⟩
    · rintro ⟨y, rest, here, later, rfl⟩
      exact ⟨y, here, rest, later, rfl⟩

/-- A list is mapped to values that pass a test, if each item is mapped to such a value or to none. -/
theorem mapM_eq_ok_map_iff {xs : List α} {ys : List β} {f : α → Except ε β} {g : α → β} {P : β → Prop}
    (each : ∀ x ∈ xs, ∀ y, f x = .ok y ↔ y = g x ∧ P y) :
    xs.mapM f = .ok ys ↔ ys = xs.map g ∧ ∀ y ∈ ys, P y := by
  induction xs generalizing ys with
  | nil =>
    rw [List.mapM_nil, pure_ok, Except.ok.injEq, List.map_nil]
    constructor
    · rintro rfl
      exact ⟨rfl, List.forall_mem_nil _⟩
    · exact fun done => done.1.symm
  | cons x xs ih =>
    obtain ⟨first, rest⟩ := List.forall_mem_cons.mp each
    simp only [List.mapM_cons, bind_ok, pure_ok, Except.ok.injEq, first, ih rest, List.map_cons]
    constructor
    · rintro ⟨y, ⟨rfl, here⟩, ys, ⟨rfl, later⟩, rfl⟩
      exact ⟨rfl, List.forall_mem_cons.mpr ⟨here, later⟩⟩
    · rintro ⟨rfl, passes⟩
      obtain ⟨here, later⟩ := List.forall_mem_cons.mp passes
      exact ⟨_, ⟨rfl, here⟩, _, ⟨rfl, later⟩, rfl⟩

theorem mapM_mem {xs : List α} {ys : List β} {read : α → Except ε β} (done : xs.mapM read = .ok ys) :
    ∀ y ∈ ys, ∃ x ∈ xs, read x = .ok y := by
  induction xs generalizing ys with
  | nil =>
    cases done
    exact fun y none => absurd none List.not_mem_nil
  | cons x xs ih =>
    rw [List.mapM_cons] at done
    obtain ⟨first, here, done⟩ := bind_ok.mp done
    obtain ⟨rest, later, same⟩ := bind_ok.mp done
    cases same
    intro y member
    rcases List.mem_cons.mp member with rfl | behind
    · exact ⟨x, List.mem_cons_self, here⟩
    · obtain ⟨z, inside, known⟩ := ih later y behind
      exact ⟨z, List.mem_cons_of_mem x inside, known⟩

/-- A list is read item by item to values that pass a test, if each item is. -/
theorem mapM_ok_iff {xs : List α} {read : α → Except ε β} {P : β → Prop} :
    (∃ ys, xs.mapM read = .ok ys ∧ ∀ y ∈ ys, P y) ↔ ∀ x ∈ xs, ∃ y, read x = .ok y ∧ P y := by
  induction xs with
  | nil => exact ⟨fun _ => List.forall_mem_nil _, fun _ => ⟨[], rfl, List.forall_mem_nil _⟩⟩
  | cons x xs ih =>
    rw [List.forall_mem_cons, ← ih, List.mapM_cons]
    constructor
    · rintro ⟨ys, done, each⟩
      obtain ⟨first, here, done⟩ := bind_ok.mp done
      obtain ⟨rest, later, same⟩ := bind_ok.mp done
      cases same
      obtain ⟨holds, others⟩ := List.forall_mem_cons.mp each
      exact ⟨⟨first, here, holds⟩, rest, later, others⟩
    · rintro ⟨⟨first, here, holds⟩, rest, later, others⟩
      refine ⟨first :: rest, ?_, List.forall_mem_cons.mpr ⟨holds, others⟩⟩
      rw [here, later]
      rfl

@[simp] theorem ofRefusal_ok (value : α) : Failure.ofRefusal (.ok value) = .ok value := rfl

@[simp] theorem ofRefusal_error (reason : Refusal) :
    (Failure.ofRefusal (.error reason) : Except Failure α) = .error (.refusal reason) := rfl

@[simp] theorem ofFault_ok (value : α) : Failure.ofFault (.ok value) = .ok value := rfl

@[simp] theorem ofFault_error (cause : Fault) :
    (Failure.ofFault (.error cause) : Except Failure α) = .error (.fault cause) := rfl

theorem ofRefusal_eq_ok {outcome : Except Refusal α} :
    Failure.ofRefusal outcome = .ok value ↔ outcome = .ok value := by
  cases outcome with
  | error reason => simp
  | ok value => simp

theorem ofFault_eq_ok {outcome : Except Fault α} :
    Failure.ofFault outcome = .ok value ↔ outcome = .ok value := by
  cases outcome with
  | error cause => simp
  | ok value => simp

end LabEditor.Outcome
