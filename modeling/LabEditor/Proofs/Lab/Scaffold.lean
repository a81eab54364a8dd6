import LabEditor.Lab.Starter
import LabEditor.Proofs.Store.Live

/-! The making of a starter lab, file by file. No file of it can be refused; if the descriptor fails,
what was made before stays. -/
namespace LabEditor.Lab

namespace Live

/-- Makes the files that are not there yet. -/
def addMissing : List (Text × Option Text) → Live Store (List Text)
  | [] => pure []
  | (path, content?) :: files => do
    if (← Live.state).has path then addMissing files
    else
      let _ ← Store.Live.create path content?.isNone (.str (content?.getD []))
      let created ← addMissing files
      pure (path :: created)

def scaffold (title image : Text) : Live Store (List Text) := do
  let created ← addMissing starterFiles
  if (← Live.state).has indexFile then pure created
  else
    let files ← Live.ofFault (scanStore (← Live.state))
    let index ← addMissing [(indexFile, some (indexContent title [] image files))]
    pure (created ++ index)

end Live

/-- A file that a store takes under the path as it is given. -/
def Clean (file : Text × Option Text) : Prop :=
  Path.normalize file.1 = file.1 ∧ (checkName (Path.basename file.1) file.2.isNone).toOption = some ()

instance (file : Text × Option Text) : Decidable (Clean file) :=
  inferInstanceAs (Decidable (_ ∧ _))

theorem starterFiles_clean : ∀ file ∈ starterFiles, Clean file := by decide

theorem indexFile_clean (content : Text) : Clean (indexFile, some content) := by
  have clean : Clean (indexFile, some []) := by decide
  exact clean

theorem create_clean (clean : Clean (path, content?)) (absent : store.has path = false) (content : Json) :
    ∃ next record, Store.create store path content?.isNone content = .ok (next, record) := by
  obtain ⟨same, named⟩ := clean
  simp only at same named
  cases check : checkName (Path.basename path) content?.isNone with
  | error reason =>
    rw [check] at named
    contradiction
  | ok =>
    simp only [Store.create, same, check, Outcome.ok_bind, absent]
    exact ⟨_, _, rfl⟩

theorem addMissing_total (clean : ∀ file ∈ files, Clean file) (store : Store) :
    ∃ next created, addMissing files store = .ok (next, created) := by
  induction files generalizing store with
  | nil => exact ⟨store, [], rfl⟩
  | cons file files ih =>
    obtain ⟨path, content?⟩ := file
    have rest := ih fun file member => clean file (List.mem_cons_of_mem _ member)
    rw [addMissing]
    cases there : store.has path with
    | true => exact rest store
    | false =>
      obtain ⟨middle, record, first⟩ :=
        create_clean (clean _ List.mem_cons_self) there (.str (content?.getD []))
      obtain ⟨last, created, later⟩ := rest middle
      refine ⟨last, path :: created, ?_⟩
      simp only [Bool.false_eq_true, if_false, first, later, Outcome.ok_bind]
      rfl

theorem addMissing_on (made : addMissing files store = .ok (next, created)) :
    (Live.addMissing files).on store = (.ok created, next) := by
  induction files generalizing store created with
  | nil =>
    cases made
    rfl
  | cons file files ih =>
    obtain ⟨path, content?⟩ := file
    rw [addMissing] at made
    simp only [Live.addMissing, Live.bind_on, Live.state_on, Live.ite_on]
    by_cases there : store.has path = true
    · simp only [there, if_true] at made ⊢
      exact ih made
    · simp only [there, if_false, Bool.false_eq_true] at made ⊢
      obtain ⟨⟨middle, record⟩, first, made⟩ := Outcome.bind_ok.mp made
      obtain ⟨⟨last, rest⟩, later, made⟩ := Outcome.bind_ok.mp made
      cases made
      simp only [Store.Live.create_on, first, Outcome.ofRefusal_ok, Live.whole_ok, ih later, Live.pure_on]

theorem scaffold_on (title image : Text) (store : Store) :
    (Live.scaffold title image).on store =
      ((scaffold store title image).2, (scaffold store title image).1) := by
  obtain ⟨started, created, made⟩ := addMissing_total starterFiles_clean store
  simp only [Live.scaffold, scaffold, made, addMissing_on made, addIndex, Live.bind_on, Live.state_on,
    Live.ite_on, Live.ofFault_on]
  by_cases there : started.has indexFile = true
  · simp only [there, if_true, Live.pure_on, List.append_nil]
  · simp only [there, Bool.false_eq_true, if_false]
    cases scanStore started with
    | error cause => rfl
    | ok files =>
      have clean : ∀ file ∈ [(indexFile, some (indexContent title [] image files))], Clean file := by
        simpa using indexFile_clean (indexContent title [] image files)
      obtain ⟨last, index, described⟩ := addMissing_total clean started
      simp only [Outcome.ofFault_ok, Outcome.ok_bind, addMissing_on described, described,
        Outcome.ofRefusal_ok, Live.pure_on]

/-- A file that is made for a lab if it is not there yet. -/
inductive Offered : Text × Option Text → Prop
  | starter (member : file ∈ starterFiles) : Offered file
  | index (title description image : Text) (files : Files) :
    Offered (indexFile, some (indexContent title description image files))

theorem Offered.clean (offered : Offered file) : Clean file := by
  cases offered with
  | starter member => exact starterFiles_clean file member
  | index title description image files => exact indexFile_clean _

section
variable {P : Store → Prop} {file : Text × Option Text}

/-- What the making of each file keeps, the making of a lab keeps. -/
theorem addMissing_keeps
    (create : ∀ {file store next record}, Offered file → P store →
      Store.create store file.1 file.2.isNone (.str (file.2.getD [])) = .ok (next, record) → P next)
    (offered : ∀ file ∈ files, Offered file) (before : P store)
    (made : addMissing files store = .ok (next, created)) : P next := by
  induction files generalizing store created with
  | nil =>
    cases made
    exact before
  | cons file files ih =>
    obtain ⟨path, content?⟩ := file
    have rest := fun file member => offered file (List.mem_cons_of_mem _ member)
    rw [addMissing] at made
    split at made
    · exact ih rest before made
    · obtain ⟨⟨middle, record⟩, first, made⟩ := Outcome.bind_ok.mp made
      obtain ⟨⟨last, others⟩, later, made⟩ := Outcome.bind_ok.mp made
      cases made
      exact ih rest (create (offered _ List.mem_cons_self) before first) later

theorem addIndex_keeps
    (create : ∀ {file store next record}, Offered file → P store →
      Store.create store file.1 file.2.isNone (.str (file.2.getD [])) = .ok (next, record) → P next)
    (before : P store) (made : addIndex store title description image = .ok (next, created)) :
    P next := by
  rw [addIndex] at made
  split at made
  · cases made
    exact before
  · obtain ⟨files, _, made⟩ := Outcome.bind_ok.mp made
    refine addMissing_keeps create ?_ before (Outcome.ofRefusal_eq_ok.mp made)
    simpa using Offered.index title description image files

theorem scaffold_keeps
    (create : ∀ {file store next record}, Offered file → P store →
      Store.create store file.1 file.2.isNone (.str (file.2.getD [])) = .ok (next, record) → P next)
    (before : P store) (title image : Text) : P (scaffold store title image).1 := by
  rw [scaffold]
  split
  · exact before
  · rename_i started created made
    have middle := addMissing_keeps create (fun _ => Offered.starter) before made
    split
    · exact middle
    · rename_i described index added
      exact addIndex_keeps create middle added

end

end LabEditor.Lab
