import LabEditor.Proofs.Store.Relocation

/-! Runs of calls on a store that is empty at first. A call that fails is a step of the run as well,
and each store of the run can be put back by a later call. -/
namespace LabEditor.Store
variable {store next : Store}

/-- A call that makes, changes or removes records, or changes what is open. -/
inductive Call where
  | create (typed : Text) (isDirectory : Bool) (content : Json)
  | write (path : Text) (content : Json)
  | openFile (path : Text)
  | close
  | rename (path newName : Text)
  | move (source folder : Text)
  | delete (path : Text)

namespace Call

def steps : Call → Live Store Unit
  | create typed isDirectory content => Live.ignore (Live.create typed isDirectory content)
  | write path content => Live.write path content
  | openFile path => Live.ignore (Live.openFile path)
  | close => Live.close
  | rename path newName => Live.ignore (Live.rename path newName)
  | move source folder => Live.ignore (Live.move source folder)
  | delete path => Live.ignore (Live.delete path)

/-- The contents that a call brings; a folder has none. -/
def contents : Call → List Json
  | create _ false content => [content]
  | write _ content => [content]
  | _ => []

/-- The texts that a call makes paths of. -/
def texts : Call → List Text
  | create typed _ _ => [typed]
  | rename _ newName => [newName]
  | _ => []

/-- The store that a call leads to. -/
def outcome (store : Store) : Call → Except Failure Store
  | create typed isDirectory content =>
    (Failure.ofRefusal (store.create typed isDirectory content)).map (·.1)
  | write path content => Failure.ofRefusal (store.write path content)
  | openFile path => (Failure.ofRefusal (store.openFile path)).map (·.1)
  | close => .ok store.close
  | rename path newName => (Failure.ofRefusal (store.rename path newName)).map (·.1)
  | move source folder => (Failure.ofRefusal (store.move source folder)).map (·.1)
  | delete path => (Failure.ofRefusal (store.delete path)).map (·.1)

theorem steps_on (call : Call) (store : Store) :
    call.steps.on store = Live.whole store ((call.outcome store).map fun next => (next, ())) := by
  cases call with
  | create typed isDirectory content =>
    exact Live.ignore_on (Live.create_on typed isDirectory content store)
  | write path content => exact Live.write_on path content store
  | openFile path => exact Live.ignore_on (Live.openFile_on path store)
  | close => exact Live.close_on store
  | rename path newName => exact Live.ignore_on (Live.rename_on path newName store)
  | move source folder => exact Live.ignore_on (Live.move_on source folder store)
  | delete path => exact Live.ignore_on (Live.delete_on path store)

theorem outcome_sound (sound : store.Sound) (call : Call) (done : call.outcome store = .ok next) :
    next.Sound := by
  cases call with
  | create typed isDirectory content =>
    obtain ⟨_, made, rfl⟩ := Outcome.map_eq_ok.mp done
    exact sound.create (Outcome.ofRefusal_eq_ok.mp made)
  | write path content => exact sound.write (Outcome.ofRefusal_eq_ok.mp done)
  | openFile path =>
    obtain ⟨_, opened, rfl⟩ := Outcome.map_eq_ok.mp done
    exact sound.openFile (Outcome.ofRefusal_eq_ok.mp opened)
  | close =>
    cases done
    exact sound.close
  | rename path newName =>
    obtain ⟨_, renamed, rfl⟩ := Outcome.map_eq_ok.mp done
    exact sound.relocated (Or.inl ⟨newName, Outcome.ofRefusal_eq_ok.mp renamed⟩)
  | move source folder =>
    obtain ⟨_, moved, rfl⟩ := Outcome.map_eq_ok.mp done
    exact sound.relocated (Or.inr ⟨folder, Outcome.ofRefusal_eq_ok.mp moved⟩)
  | delete path =>
    obtain ⟨_, deleted, rfl⟩ := Outcome.map_eq_ok.mp done
    exact sound.delete (Outcome.ofRefusal_eq_ok.mp deleted)

/-- Whatever changes a store is counted. -/
theorem outcome_counted (call : Call) (done : call.outcome store = .ok next) :
    next = store ∨ next.revision ≠ store.revision := by
  have counted : store.revision + 1 ≠ store.revision := Nat.succ_ne_self _
  cases call with
  | create typed isDirectory content =>
    obtain ⟨_, made, rfl⟩ := Outcome.map_eq_ok.mp done
    obtain ⟨_, _, _, result⟩ := create_ok (Outcome.ofRefusal_eq_ok.mp made)
    exact Or.inr (result ▸ counted)
  | write path content =>
    obtain ⟨_, _, _, rfl⟩ := write_ok (Outcome.ofRefusal_eq_ok.mp done)
    exact Or.inr counted
  | openFile path =>
    obtain ⟨_, opened, rfl⟩ := Outcome.map_eq_ok.mp done
    obtain ⟨_, _, result⟩ := openFile_ok (Outcome.ofRefusal_eq_ok.mp opened)
    exact Or.inr (result ▸ counted)
  | close =>
    cases done
    rw [Store.close]
    split
    · exact Or.inl rfl
    · exact Or.inr counted
  | rename path newName =>
    obtain ⟨_, renamed, rfl⟩ := Outcome.map_eq_ok.mp done
    obtain ⟨_, _, _, _, _, result⟩ := rename_ok (Outcome.ofRefusal_eq_ok.mp renamed)
    exact Or.inr (result ▸ counted)
  | move source folder =>
    obtain ⟨_, moved, rfl⟩ := Outcome.map_eq_ok.mp done
    obtain ⟨_, _, _, _, _, result⟩ := move_ok (Outcome.ofRefusal_eq_ok.mp moved)
    exact Or.inr (result ▸ counted)
  | delete path =>
    obtain ⟨_, deleted, rfl⟩ := Outcome.map_eq_ok.mp done
    obtain ⟨_, _, _, result⟩ := delete_ok (Outcome.ofRefusal_eq_ok.mp deleted)
    exact Or.inr (result ▸ counted)

end Call

/-- A store with those that were before it, the newest first. -/
structure Run where
  store : Store
  earlier : List Store

namespace Run

inductive Step where
  | call (call : Call)
  | scaffold (title image : Text)
  /-- Puts back the records as they were some steps ago, if there have been as many. -/
  | putBack (ago : Nat)

def start : Run := ⟨.empty, []⟩

def stores (run : Run) : List Store :=
  run.store :: run.earlier

def live (run : Run) : Step → Live Store Unit
  | .call call => call.steps
  | .scaffold title image => Live.ignore (Lab.Live.scaffold title image)
  | .putBack ago =>
    match run.stores[ago]? with
    | some past => Live.replaceWritten past.listing
    | none => pure ()

/-- A step that fails is one all the same: what it leaves behind is where the run goes on. -/
def step (run : Run) (step : Step) : Run :=
  ⟨((run.live step).on run.store).2, run.stores⟩

def after (steps : List Step) : Run :=
  steps.foldl step start

/-- What each step keeps holds of all stores of a run. -/
theorem invariant {P : Store → Prop} (empty : P .empty)
    (keeps : ∀ run : Run, (∀ past ∈ run.stores, P past) → ∀ step, P (run.step step).store)
    (steps : List Step) : ∀ store ∈ (after steps).stores, P store := by
  refine List.foldlRecOn (motive := fun run : Run => ∀ store ∈ run.stores, P store) steps step ?_ ?_
  · intro store member
    cases List.mem_singleton.mp member
    exact empty
  · intro run all step _ store member
    rcases List.mem_cons.mp member with rfl | before
    · exact keeps run all step
    · exact all store before

/-- A step keeps what was before it. -/
theorem forall_stores_step {P : Store → Prop} {run : Run} {step : Step} :
    (∀ past ∈ (run.step step).stores, P past) ↔
      P (run.step step).store ∧ ∀ past ∈ run.stores, P past :=
  List.forall_mem_cons

theorem step_sound (run : Run) (all : ∀ past ∈ run.stores, past.Sound) (step : Step) :
    (run.step step).store.Sound := by
  have sound : run.store.Sound := all run.store List.mem_cons_self
  rw [Run.step]
  cases step with
  | call call =>
    rw [live, Call.steps_on]
    refine Live.whole_keeps sound fun next _ made => ?_
    obtain ⟨_, done, same⟩ := Outcome.map_eq_ok.mp made
    cases same
    exact Call.outcome_sound sound call done
  | scaffold title image =>
    rw [live, Live.ignore_after, Lab.scaffold_on]
    exact sound.scaffold title image
  | putBack ago =>
    rw [live]
    split
    · rename_i past found
      have listed : past.Sound := all past (List.mem_of_getElem? found)
      rw [Live.replaceWritten_on, replaceWritten_listing sound.plain listed.plain]
      exact Sound.replaceAll listed run.store
    · exact sound

theorem all_sound (steps : List Step) : ∀ store ∈ (after steps).stores, store.Sound :=
  invariant Sound.empty step_sound steps

theorem sound (steps : List Step) : (after steps).store.Sound :=
  all_sound steps _ List.mem_cons_self

/-- Whatever is called, records lie under canonical paths that agree with what they say of themselves,
and the current file is a file that is there. -/
theorem records_and_current_valid (steps : List Step) :
    (∀ key record, (key, record) ∈ (after steps).store.files →
      record.path = key ∧ key ≠ [] ∧ Path.join (Path.segments key) = key ∧
      (∀ segment ∈ Path.segments key, Path.isDots segment = false) ∧
      record.name = .str (Path.basename key) ∧
      (record.isDirectory = false → Path.extension key = [] ∨ Path.extension key ∈ allowedExtensions) ∧
      (record.isDirectory = true → record.content = .str [])) ∧
    ((after steps).store.current = .null ∨
      ∃ key record, (after steps).store.current = .str key ∧
        (after steps).store.files.get? key = some record ∧ record.isDirectory = false) := by
  have sound := sound steps
  constructor
  · intro key record member
    obtain ⟨place, own, name, allowed, bare⟩ := sound.records _ member
    exact ⟨own, place.some, Path.canonical_iff_join.mp place.canonical, place.plain, name, allowed, bare⟩
  · rw [current, sound.plain]
    cases here : (after steps).store.currentFile with
    | none => exact Or.inl rfl
    | some key =>
      obtain ⟨record, found, file⟩ := isFile_iff.mp (sound.current key here)
      exact Or.inr ⟨key, record, rfl, found, file⟩

/-- Wherever a run stands, renaming and moving lose, merge and change nothing. -/
theorem relocation_carries (steps : List Step) (relocated : (after steps).store.Relocated old new next) :
    (after steps).store.Carries old new next :=
  relocated.carries (sound steps)

theorem relocation_carries_folder :
    let store := (after [.call (.create "docs" true .null), .call (.create "docs/a.md" false (.str "text")),
      .call (.create "docs2/b.md" false (.str "more")), .call (.openFile "docs/a.md")]).store
    ∃ next, store.Relocated "docs" "notes" next ∧ store.Carries "docs" "notes" next :=
  ⟨_, Or.inl ⟨"notes", rfl⟩, relocation_carries _ (Or.inl ⟨"notes", rfl⟩)⟩

end Run

end LabEditor.Store
