import LabEditor.Proofs.Store.Contents
import LabEditor.Proofs.Workspace.Soundness

/-! The contents of a workspace, those of the remembered submissions included. What holds of all of
them is kept by each step that brings no content without it. -/
namespace LabEditor.Workspace
variable {P : Json → Prop} {ws next : Workspace}

/-- All contents have a property, and so have those that can be restored. -/
structure Bears (P : Json → Prop) (ws : Workspace) : Prop where
  store : ws.store.Bears P
  submissions : ∀ submission ∈ ws.submissions, ∀ file ∈ submission.files, P file.2.content

/-- The contents that a step brings; those of a new lab are texts. -/
def Step.contents : Step → List Json
  | .call made => made.contents
  | .scaffold _ _ => []

/-- The texts that a step brings beside contents. Those of a lab stand in its index only, in ASCII. -/
def Step.texts : Step → List Text
  | .call made => made.texts
  | .scaffold _ _ => []

namespace Bears

theorem empty (disk : Disk) : (empty disk).Bears P where
  store := Store.Bears.empty
  submissions := fun _ none => absurd none List.not_mem_nil

theorem of_store (bears : ws.Bears P) (store : next.store.Bears P)
    (same : next.submissions = ws.submissions) : next.Bears P :=
  ⟨store, same ▸ bears.submissions⟩

theorem submitted (bears : ws.Bears P) (sound : ws.Sound) (id : Text) (clock : Clock)
    (labName authorName : Text) : (ws.recordSubmission id clock labName authorName).1.Bears P := by
  constructor
  · rw [recordSubmission, save_store]
    exact bears.store
  · rw [recordSubmission, save_submissions]
    simp only [List.forall_mem_cons]
    refine ⟨?_, fun submission member =>
      bears.submissions submission (List.mem_of_mem_take member)⟩
    rw [Store.listing_plain sound.store.plain, Store.records_sorted]
    simp only [List.forall_mem_map]
    exact fun entry member => bears.store entry ((Store.perm_sorted ws.store).mem_iff.mp member)

theorem restored {store : Store} {submission : Submission} (bears : ws.Bears P) (sound : ws.Sound)
    (known : submission ∈ ws.submissions)
    (replaced : ws.store.replaceWritten (submission.files.map (·.2)) = .ok store) :
    store.Bears P := by
  obtain ⟨past, _, files, rfl⟩ := sound.past known replaced
  refine Store.Bears.replaceAll (fun record member => ?_) ws.store
  obtain ⟨file, there, same⟩ := List.mem_map.mp (files ▸ List.mem_map_of_mem member)
  have content := bears.submissions submission known file there
  rwa [same] at content

theorem leads (bears : ws.Bears P) (bare : P (.str [])) (sound : ws.Sound)
    (given : ∀ content ∈ contents, P content) (leads : Leads ws contents texts labels? next) :
    next.Bears P := by
  cases leads with
  | records call same worded done =>
    refine bears.of_store ?_ (withStore_submissions _ _)
    rw [withStore_store]
    exact bears.store.call bare call (same ▸ given) done
  | relocated worded relocated =>
    refine bears.of_store ?_ (save_submissions _)
    rw [save_store]
    exact bears.store.relocates relocated.relocates
  | deleted deleted =>
    refine bears.of_store ?_ (save_submissions _)
    rw [save_store]
    exact bears.store.delete deleted
  | toggled folder =>
    refine bears.of_store ?_ (save_submissions _)
    rw [save_store]
    exact bears.store
  | settings settings =>
    refine bears.of_store ?_ (save_submissions _)
    rw [save_store]
    exact bears.store
  | submitted id clock labName authorName worded => exact bears.submitted sound id clock labName authorName
  | restored known replaced =>
    refine bears.of_store ?_ (withStore_submissions _ _)
    rw [withStore_store]
    exact bears.restored sound known replaced

theorem step (bears : ws.Bears P) (bare : P (.str []))
    (offered : ∀ path t, Lab.Offered (path, some t) → P (.str t)) (sound : ws.Sound) (step : Step)
    (given : ∀ content ∈ step.contents, P content) : (ws.step step).Bears P := by
  cases step with
  | call call =>
    rcases step_call ws call with same | done
    · rwa [same]
    · exact bears.leads bare sound given (.outcome call done)
  | scaffold title image =>
    rw [step_scaffold]
    refine bears.of_store ?_ (withStore_submissions _ _)
    rw [withStore_store]
    exact bears.store.scaffold bare offered title image

theorem after (bears : ws.Bears P) (bare : P (.str []))
    (offered : ∀ path t, Lab.Offered (path, some t) → P (.str t)) (sound : ws.Sound)
    (steps : List Step) (given : ∀ step ∈ steps, ∀ content ∈ step.contents, P content) :
    (ws.after steps).Bears P := by
  induction steps generalizing ws with
  | nil => exact bears
  | cons step steps ih =>
    have first := bears.step bare offered sound step (given step List.mem_cons_self)
    exact ih first (sound.step step) fun step member => given step (List.mem_cons_of_mem _ member)

end Bears
end LabEditor.Workspace
