import LabEditor.Proofs.Workspace.Run

/-! What holds of a workspace that was empty at first: its store is sound, and each snapshot is the
listing of a store that was. The second is what makes restoring keep the first. -/
namespace LabEditor.Workspace
variable {ws next : Workspace}

/-- The snapshot of a submission lists a sound store. -/
def Listed (submission : Submission) : Prop :=
  ∃ past : Store, past.Sound ∧ submission.files = past.listing.map fun record => (record.path, record)

structure Sound (ws : Workspace) : Prop where
  store : ws.store.Sound
  few : ws.submissions.length ≤ maxSubmissions
  listed : ∀ submission ∈ ws.submissions, Listed submission

namespace Sound

theorem empty (disk : Disk) : (empty disk).Sound where
  store := Store.Sound.empty
  few := Nat.zero_le _
  listed := fun _ none => absurd none List.not_mem_nil

theorem of_store (sound : ws.Sound) (store : next.store.Sound) (same : next.submissions = ws.submissions) :
    next.Sound := by
  refine ⟨store, ?_, ?_⟩
  · rw [same]
    exact sound.few
  · rw [same]
    exact sound.listed

theorem withStore {store : Store} (sound : ws.Sound) (after : store.Sound) : (ws.withStore store).Sound := by
  refine sound.of_store ?_ (withStore_submissions ws store)
  rw [withStore_store]
  exact after

theorem submitted (sound : ws.Sound) (id : Text) (clock : Clock) (labName authorName : Text) :
    (ws.recordSubmission id clock labName authorName).1.Sound := by
  constructor
  · rw [recordSubmission, save_store]
    exact sound.store
  · simp only [recordSubmission, save_submissions, List.length_cons, List.length_take]
    have limit : maxSubmissions = 20 := rfl
    omega
  · intro submission member
    simp only [recordSubmission, save_submissions, List.mem_cons] at member
    rcases member with rfl | before
    · exact ⟨ws.store, sound.store, rfl⟩
    · exact sound.listed submission (List.mem_of_mem_take before)

/-- What is put back is what a sound store has held. -/
theorem past {store : Store} (sound : ws.Sound) (known : submission ∈ ws.submissions)
    (replaced : ws.store.replaceWritten (submission.files.map (·.2)) = .ok store) :
    ∃ past : Store, past.Sound ∧ submission.files.map (·.2) = past.records.map Record.written ∧
      store = ws.store.replaceAll past.records := by
  obtain ⟨past, listed, files⟩ := sound.listed submission known
  have records : submission.files.map (·.2) = past.listing := by
    rw [files, List.map_map]
    exact List.map_id _
  rw [records, Store.replaceWritten_listing sound.store.plain listed.plain] at replaced
  cases replaced
  exact ⟨past, listed, records.trans (Store.listing_plain listed.plain), rfl⟩

theorem restored {store : Store} (sound : ws.Sound) (known : submission ∈ ws.submissions)
    (replaced : ws.store.replaceWritten (submission.files.map (·.2)) = .ok store) : store.Sound := by
  obtain ⟨past, listed, _, rfl⟩ := sound.past known replaced
  exact Store.Sound.replaceAll listed ws.store

theorem leads (sound : ws.Sound) (leads : Leads ws contents texts labels? next) : next.Sound := by
  cases leads with
  | records call given worded done => exact sound.withStore (Store.Call.outcome_sound sound.store call done)
  | relocated worded relocated =>
    refine sound.of_store ?_ (save_submissions _)
    rw [save_store]
    exact sound.store.relocated relocated
  | deleted deleted =>
    refine sound.of_store ?_ (save_submissions _)
    rw [save_store]
    exact sound.store.delete deleted
  | toggled folder =>
    refine sound.of_store ?_ (save_submissions _)
    rw [save_store]
    exact sound.store
  | settings settings =>
    refine sound.of_store ?_ (save_submissions _)
    rw [save_store]
    exact sound.store
  | submitted id clock labName authorName worded => exact sound.submitted id clock labName authorName
  | restored known replaced => exact sound.withStore (sound.restored known replaced)

theorem step (sound : ws.Sound) (step : Step) : (ws.step step).Sound := by
  cases step with
  | call call =>
    rcases step_call ws call with same | done
    · rwa [same]
    · exact sound.leads (.outcome call done)
  | scaffold title image =>
    rw [step_scaffold]
    exact sound.withStore (sound.store.scaffold title image)

theorem after (sound : ws.Sound) (steps : List Step) : (ws.after steps).Sound :=
  after_induction (P := Sound) sound (fun _ sound step => sound.step step) steps

end Sound
end LabEditor.Workspace
