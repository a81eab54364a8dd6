import LabEditor.Proofs.Workspace.Joined

/-! The file of a workspace. A step leaves in it what the workspace is then, or changes nothing; and
what the file holds is read as the workspace that was written, its records sorted, unless it is too
large to be read. -/
namespace LabEditor

theorem Settings.toJson_proper (settings : Settings) : settings.toJson.Proper := by
  have distinct : (["theme", "autoDetect"] : List Text).Nodup := by decide
  refine .obj distinct ?_
  simp only [List.forall_mem_cons, List.not_mem_nil, false_implies, implies_true, and_true]
  exact ⟨.str _, .bool _⟩

theorem Store.current_proper {store : Store} (plain : store.strays = .none) :
    store.current.Proper := by
  rw [current, plain]
  cases store.currentFile with
  | none => exact .null
  | some path => exact .str path

/-- A submission that can be written and read again. -/
structure Submission.Proper (submission : Submission) : Prop where
  id : ∃ t, submission.id = .str t
  labName : ∃ t, submission.labName = .str t
  authorName : ∃ t, submission.authorName = .str t
  timestamp : ∃ t, submission.timestamp = .str t
  files : ∀ file ∈ submission.files, file.1.Proper ∧ file.2.Proper

namespace Submission.Proper
variable {submission : Submission}

theorem filesJson (proper : submission.Proper) :
    (Json.arr (submission.files.map fun (path, record) => .arr [path, record.toJson])).Proper := by
  refine .arr ?_
  simp only [List.forall_mem_map]
  intro file member
  obtain ⟨path, record⟩ := proper.files file member
  refine .arr ?_
  simp only [List.forall_mem_cons, List.not_mem_nil, false_implies, implies_true, and_true]
  exact ⟨path, record.toJson⟩

theorem toJson (proper : submission.Proper) : submission.toJson.Proper := by
  have distinct : (["id", "labName", "authorName", "timestamp", "files"] : List Text).Nodup := by
    decide
  refine .obj distinct ?_
  simp only [List.forall_mem_cons, List.not_mem_nil, false_implies, implies_true, and_true]
  obtain ⟨_, id⟩ := proper.id
  obtain ⟨_, labName⟩ := proper.labName
  obtain ⟨_, authorName⟩ := proper.authorName
  obtain ⟨_, timestamp⟩ := proper.timestamp
  rw [id, labName, authorName, timestamp]
  exact ⟨.str _, .str _, .str _, .str _, proper.filesJson⟩

end Submission.Proper

theorem Expansion.Sound.toJson {expansion : Expansion} (sound : expansion.Sound) :
    (Json.obj (expansion.table.map fun (path, expanded) => (path, .bool expanded))).Proper := by
  refine .obj ?_ ?_
  · rw [List.map_map]
    exact sound.distinct
  · simp only [List.forall_mem_map]
    exact fun _ _ => .bool _

namespace Workspace
variable {ws next : Workspace}

/-- A workspace that can be written and read again. -/
structure Proper (ws : Workspace) : Prop where
  store : ws.store.Proper
  folders : ws.expansion.Sound
  submissions : ∀ submission ∈ ws.submissions, submission.Proper

namespace Proper

theorem empty (disk : Disk) : (empty disk).Proper where
  store := Store.Bears.empty
  folders := Expansion.Sound.empty
  submissions := fun _ none => absurd none List.not_mem_nil

theorem toJson (proper : ws.Proper) (sound : ws.Sound) : ws.toJson.Proper := by
  have distinct :
      (["files", "currentFile", "userSettings", "previousSubmissions", "folderExpansionState"] :
      List Text).Nodup := by decide
  have files : (Json.arr (ws.store.listing.map fileJson)).Proper := by
    refine .arr ?_
    simp only [List.forall_mem_map]
    intro record member
    have listed := proper.store.listing sound.store record member
    refine .arr ?_
    simp only [List.forall_mem_cons, List.not_mem_nil, false_implies, implies_true, and_true]
    exact ⟨listed.path, listed.toJson⟩
  have submissions : (Json.arr (ws.submissions.map Submission.toJson)).Proper := by
    refine .arr ?_
    simp only [List.forall_mem_map]
    exact fun submission member => (proper.submissions submission member).toJson
  refine .obj distinct ?_
  simp only [List.forall_mem_cons, List.not_mem_nil, false_implies, implies_true, and_true]
  exact ⟨files, Store.current_proper sound.store.plain, ws.settings.toJson_proper, submissions,
    proper.folders.toJson⟩

theorem of_store (proper : ws.Proper) (store : next.store.Proper) (folders : next.expansion.Sound)
    (same : next.submissions = ws.submissions) : next.Proper := by
  refine ⟨store, folders, ?_⟩
  rw [same]
  exact proper.submissions

theorem submitted (proper : ws.Proper) (sound : ws.Sound) (id : Text) (clock : Clock)
    (labName authorName : Text) :
    (ws.recordSubmission id clock labName authorName).1.Proper := by
  refine ⟨?_, ?_, ?_⟩
  · rw [recordSubmission, save_store]
    exact proper.store
  · rw [recordSubmission, save_expansion]
    exact proper.folders
  · rw [recordSubmission, save_submissions]
    simp only [List.forall_mem_cons]
    refine ⟨⟨⟨_, rfl⟩, ⟨_, rfl⟩, ⟨_, rfl⟩, ⟨_, rfl⟩, ?_⟩, fun submission member =>
      proper.submissions submission (List.mem_of_mem_take member)⟩
    simp only [List.forall_mem_map]
    intro record member
    have listed := proper.store.listing sound.store record member
    exact ⟨listed.path, listed⟩

theorem bears (proper : ws.Proper) : ws.Bears Json.Proper where
  store := proper.store
  submissions := fun submission known file member =>
    ((proper.submissions submission known).files file member).2.content

theorem leads (proper : ws.Proper) (sound : ws.Sound) (given : ∀ content ∈ contents, content.Proper)
    (leads : Leads ws contents texts labels? next) : next.Proper := by
  have store := (proper.bears.leads (.str []) sound given leads).store
  have folders := proper.folders.leads sound.store leads
  cases leads with
  | submitted id clock labName authorName worded => exact proper.submitted sound id clock labName authorName
  | records | restored => exact proper.of_store store folders (withStore_submissions _ _)
  | relocated | deleted | toggled | settings =>
    exact proper.of_store store folders (save_submissions _)

end Proper

theorem Proper.step (proper : ws.Proper) (sound : ws.Sound) (step : Step)
    (given : ∀ content ∈ step.contents, content.Proper) : (ws.step step).Proper := by
  cases step with
  | call call =>
    rcases step_call ws call with same | done
    · rwa [same]
    · exact proper.leads sound given (.outcome call done)
  | scaffold title image =>
    rw [step_scaffold]
    refine proper.of_store ?_ ?_ (withStore_submissions _ _)
    · rw [withStore_store]
      exact proper.bears.store.scaffold (.str []) (fun _ t _ => .str t) title image
    · rw [withStore_expansion]
      exact proper.folders

theorem Proper.after (proper : ws.Proper) (sound : ws.Sound) (steps : List Step)
    (given : ∀ step ∈ steps, ∀ content ∈ step.contents, content.Proper) :
    (ws.after steps).Proper := by
  induction steps generalizing ws with
  | nil => exact proper
  | cons step steps ih =>
    rw [List.forall_mem_cons] at given
    exact ih (proper.step sound step given.1) (sound.step step) given.2

theorem Kept.step (ws : Workspace) (step : Step) : Kept ws (ws.step step) := by
  cases step with
  | call call =>
    rcases step_call ws call with same | done
    · exact Or.inl same
    · exact Kept.leads (.outcome call done)
  | scaffold title image =>
    rw [step_scaffold]
    exact Kept.withStore (Store.scaffold_counted ws.store title image)

section
variable {depth : Nat} {record : Record.Written} {submission : Submission}

theorem fileJson_legible (texts : ∃ name path, record.name = .str name ∧ record.path = .str path)
    (content : record.content.Legible depth) : (fileJson record).Legible (depth + 2) := by
  obtain ⟨name, path, named, placed⟩ := texts
  have written : record.toJson.Legible (depth + 1) := by
    refine .obj ?_
    simp only [List.forall_mem_cons, List.not_mem_nil, false_implies, implies_true, and_true]
    rw [named, placed]
    exact ⟨.str _, .str _, content, .bool _⟩
  refine .arr ?_
  simp only [List.forall_mem_cons, List.not_mem_nil, false_implies, implies_true, and_true]
  rw [placed]
  exact ⟨.str _, written⟩

theorem Proper.submission_legible (proper : ws.Proper) (sound : ws.Sound)
    (bears : ws.Bears (Json.Legible depth)) (known : submission ∈ ws.submissions) :
    submission.toJson.Legible (depth + 4) := by
  have files : (Json.arr (submission.files.map fun (path, record) =>
      .arr [path, record.toJson])).Legible (depth + 3) := by
    refine .arr ?_
    simp only [List.forall_mem_map]
    intro file member
    obtain ⟨past, listed, same⟩ := sound.listed submission known
    have content := bears.submissions submission known file member
    rw [same] at member
    obtain ⟨record, inside, rfl⟩ := List.mem_map.mp member
    exact fileJson_legible (listed.listing_texts record inside) content
  have own := proper.submissions submission known
  obtain ⟨_, id⟩ := own.id
  obtain ⟨_, labName⟩ := own.labName
  obtain ⟨_, authorName⟩ := own.authorName
  obtain ⟨_, timestamp⟩ := own.timestamp
  refine .obj ?_
  simp only [List.forall_mem_cons, List.not_mem_nil, false_implies, implies_true, and_true]
  rw [id, labName, authorName, timestamp]
  exact ⟨.str _, .str _, .str _, .str _, files⟩

/-- The file of a workspace nests its contents six times. -/
theorem Proper.toJson_legible (proper : ws.Proper) (sound : ws.Sound)
    (bears : ws.Bears (Json.Legible depth)) : ws.toJson.Legible (depth + 6) := by
  have files : (Json.arr (ws.store.listing.map fileJson)).Legible (depth + 5) := by
    refine .arr ?_
    simp only [List.forall_mem_map]
    intro record member
    have content := bears.store.listing sound.store record member
    exact (fileJson_legible (sound.store.listing_texts record member) content).mono (by omega)
  have submissions :
      (Json.arr (ws.submissions.map Submission.toJson)).Legible (depth + 5) := by
    refine .arr ?_
    simp only [List.forall_mem_map]
    exact fun submission known => proper.submission_legible sound bears known
  have current : ws.store.current.Legible (depth + 5) := by
    rw [Store.current, sound.store.plain]
    cases ws.store.currentFile with
    | none => exact .null
    | some path => exact .str path
  have settings : ws.settings.toJson.Legible (depth + 5) := by
    refine .obj ?_
    simp only [List.forall_mem_cons, List.not_mem_nil, false_implies, implies_true, and_true]
    exact ⟨.str _, .bool _⟩
  have folders : (Json.obj (ws.expansion.table.map fun (path, expanded) =>
      (path, .bool expanded))).Legible (depth + 5) := by
    refine .obj ?_
    simp only [List.forall_mem_map]
    exact fun _ _ => .bool _
  refine .obj ?_
  simp only [List.forall_mem_cons, List.not_mem_nil, false_implies, implies_true, and_true]
  exact ⟨files, current, settings, submissions, folders⟩

end

/-- A saved workspace is read from its file, unless the file is too large to be read. -/
theorem reload_saved (limit : Nat) (sound : ws.Sound) (proper : ws.Proper)
    (joined : ws.toJson.Joined)
    (saved : ws.disk = .holds ws.fileContent) :
    reload limit ws = .ok (ws.reread ws.disk) ∨
      ¬ ws.toJson.Legible limit ∧ ∃ cause, reload limit ws = .error cause := by
  have opened : reload limit ws = load limit (some ws.toJson.indented) := by
    rw [reload, saved]
    rfl
  rw [opened, saved]
  rcases Json.read_indented limit (proper.toJson sound) joined with read | ⟨large, error, read, kind⟩
  · rw [load_read read]
    exact Or.inl (ofJson_toJson sound.stable _)
  · refine Or.inr ⟨large, ?_⟩
    rw [load, read]
    cases error with
    | malformed => exact absurd rfl kind
    | numberTooLong => exact ⟨_, rfl⟩
    | tooDeep => exact ⟨_, rfl⟩

theorem Sound.reread (sound : ws.Sound) (disk : Disk) :
    (ws.reread disk).Sound where
  store := {
    distinct := Store.nodup_sorted sound.store.distinct
    records := fun entry member =>
      sound.store.records entry ((Store.perm_sorted ws.store).mem_iff.mp member)
    current := by
      intro path here
      have file := sound.store.current path here
      rw [Store.isFile, ← Store.get?_sorted sound.store.distinct] at file
      exact file
    plain := sound.store.plain }
  few := sound.few
  listed := sound.listed

theorem Proper.reread (proper : ws.Proper) (disk : Disk) :
    (ws.reread disk).Proper where
  store := fun entry member => proper.store entry ((Store.perm_sorted ws.store).mem_iff.mp member)
  folders := ⟨proper.folders.distinct, proper.folders.places⟩
  submissions := proper.submissions

/-- Wherever a run stands, a call that fails leaves all as it was, the file included, and a call that
changes something leaves in the file what it leads to. If no text was brought with a character as its two
halves, what is in the file is read as the value of the workspace, where lists and objects may stand in
one another often enough. -/
theorem call_whole_and_saved {disk : Disk} (attached : disk ≠ .detached) (steps : List Step)
    (call : Call)
    (given : ∀ step ∈ steps ++ [.call call], ∀ content ∈ step.contents, content.Storable) :
    let before := after (empty disk) steps
    (∀ failure next, call.steps.on before = (.error failure, next) → next = before) ∧
      ∀ next, call.steps.on before = (.ok (), next) → next ≠ before →
        next.disk = .holds next.toJson.indented ∧
          ((∀ step ∈ steps ++ [.call call], step.Joined) → ∃ depth, ∀ limit, depth ≤ limit →
            Json.read limit next.toJson.indented = .ok next.toJson) := by
  intro before
  have file : before.disk ≠ .detached := after_attached attached steps
  rw [Call.steps_on]
  cases done : call.outcome before with
  | error failure =>
    constructor
    · rintro _ next ⟨⟩
      rfl
    · rintro next ⟨⟩
  | ok result =>
    constructor
    · rintro _ next ⟨⟩
    · rintro next ⟨⟩ changed
      refine ⟨((Kept.leads (.outcome call done)).holds file).resolve_left changed, fun joined => ?_⟩
      have run : after (empty disk) (steps ++ [.call call]) = result := by
        rw [after_append]
        exact step_ok done
      have brought : ∀ content ∈ (steps ++ [Step.call call]).flatMap Step.contents, content.Storable :=
        List.forall_mem_flatMap.mpr given
      obtain ⟨limit, short⟩ := Json.exists_limit brought
      have start : (empty disk).Sound := Sound.empty disk
      have sound : result.Sound := run ▸ start.after _
      have proper : result.Proper := run ▸ (Proper.empty disk).after start _
        fun step member content own => (given step member content own).proper
      have bears : result.Bears (Json.Legible limit) := run ▸ (Bears.empty disk).after (.str [])
        (fun _ t _ => .str t) start _ (List.forall_mem_flatMap.mp short)
      have joined : result.Joined := run ▸ (Joined.empty disk).after start _ joined
      refine ⟨limit + 6, fun more le => ?_⟩
      exact Json.read_indented_ok (proper.toJson sound) (joined.toJson sound)
        ((proper.toJson_legible sound bears).mono le)

theorem call_whole_and_saved_rename :
    let steps : List Step := [.call (.apply (.createFolder [] "docs")),
      .call (.apply (.createFile "docs" "a.md" (.str "text"))), .call (.toggleFolder "docs")]
    let before := after (empty .absent) steps
    Disk.absent ≠ .detached ∧
      (∀ name, ∀ step ∈ steps ++ [.call (.rename "docs" name)], ∀ content ∈ step.contents,
        content.Storable) ∧
      (∃ failure next, (Call.rename "docs" "a/b").steps.on before = (.error failure, next) ∧
        next = before) ∧
      ∃ next, (Call.rename "docs" "notes").steps.on before = (.ok (), next) ∧ next ≠ before ∧
        next.disk = .holds next.toJson.indented ∧ ∃ depth, ∀ limit, depth ≤ limit →
          Json.read limit next.toJson.indented = .ok next.toJson := by
  intro steps before
  have attached : Disk.absent ≠ .detached := by decide
  have given (name : Text) : ∀ step ∈ steps ++ [.call (.rename "docs" name)],
      ∀ content ∈ step.contents, content.Storable := by
    have text : Json.Storable (.str "text") := ⟨.str _, 0, .str _⟩
    simpa [steps, Step.contents, Call.contents, contentsOf] using text
  refine ⟨attached, given, ?_, ?_⟩
  · exact ⟨_, _, rfl, (call_whole_and_saved attached steps (.rename "docs" "a/b") (given _)).1
      (.refusal (.invalidName "a/b")) _ rfl⟩
  · have changed : ((Call.rename "docs" "notes").steps.on before).2 ≠ before := fun same =>
      absurd (congrArg (fun ws => ws.store.files.keys) same) (by decide)
    have saved := (call_whole_and_saved attached steps (.rename "docs" "notes") (given _)).2 _ rfl
      changed
    exact ⟨_, rfl, changed, saved.1, saved.2 (by decide)⟩

end Workspace
end LabEditor
