import LabEditor.Proofs.Store.Written
import LabEditor.Proofs.Workspace.Soundness
import Mathlib.Data.List.Permutation

/-! Writing a workspace and reading it again. Reading drops or replaces what it does not accept, so that
the workspace comes back only if nothing of that is in it; this is so once it has been read, and it is
so after any calls on an empty one. -/
namespace LabEditor

open Record (Written)

theorem Settings.ofJson_toJson (settings : Settings) : ofJson settings.toJson = .ok settings := by
  obtain ⟨theme, autoDetect⟩ := settings
  cases theme <;> rfl

namespace Store
variable {store : Store}

/-- Reading the written form changes nothing in the store but the order of its records. -/
structure Stable (store : Store) : Prop where
  plain : store.strays = .none
  distinct : store.files.keys.Nodup
  own : ∀ entry ∈ store.files, entry.2.path = entry.1
  records : ∀ entry ∈ store.files, entry.2.written.Stable
  current : ∀ path, store.currentFile = some path → isFile store.files path = true

theorem Sound.stable (sound : store.Sound) : store.Stable where
  plain := sound.plain
  distinct := sound.distinct
  own := sound.paths
  records := fun entry member => (sound.records entry member).stable
  current := sound.current

theorem current_text? (plain : store.strays = .none) : store.current.text? = store.currentFile := by
  rw [current, plain]
  cases store.currentFile <;> rfl

theorem current_isKey (plain : store.strays = .none) : checkKeys [store.current] = .ok () := by
  rw [current, plain]
  cases store.currentFile <;> rfl

theorem ofRecords_none (records : List Record) (current : Json) :
    Strays.ofRecords (records.map Record.written) current = .none := by
  simp only [Strays.ofRecords, entriesOf_written, Strays.isFile, List.find?_nil, Option.map_none,
    Option.any_none, Bool.and_false, Bool.false_eq_true, if_false]
  rfl

theorem Stable.filter_current (stable : store.Stable) :
    store.currentFile.filter (isFile store.sorted) = store.currentFile := by
  cases here : store.currentFile with
  | none => rfl
  | some path =>
    have file := stable.current path here
    rw [isFile, ← get?_sorted stable.distinct] at file
    exact Option.filter_eq_some_iff.mpr ⟨rfl, file⟩

theorem Stable.ofWritten_listing (stable : store.Stable) :
    ofWritten store.listing store.current = .ok { store with files := store.sorted, revision := 0 } := by
  rw [ofWritten, listing_plain stable.plain, checkKeys_written, Outcome.ok_bind, current_isKey stable.plain,
    Outcome.ok_bind, record?_written, current_text? stable.plain, ofRecords_none, ofRecords,
    tableOf_records stable.distinct stable.own, stable.filter_current, stable.plain]
  rfl

theorem Stable.listed (stable : store.Stable) : ∀ record ∈ store.listing, record.Stable := by
  rw [listing_plain stable.plain, records_sorted]
  intro written member
  obtain ⟨record, inside, rfl⟩ := List.mem_map.mp member
  obtain ⟨entry, known, rfl⟩ := List.mem_map.mp inside
  exact stable.records entry ((perm_sorted store).mem_iff.mp known)

/-- The records come in the order of their paths, which does not change when they are read in it. -/
theorem sorted_sorted (store : Store) :
    { store with files := store.sorted, revision := 0 }.sorted = store.sorted :=
  Order.sortBy_sorted (Store.pairwise_sorted store)

theorem written_record? {records : List Written}
    (texts : ∀ record ∈ records, ∃ path, record.path = .str path) :
    (records.filterMap Written.record?).map Record.written = records := by
  induction records with
  | nil => rfl
  | cons record records ih =>
    obtain ⟨name, path, content, isDirectory⟩ := record
    obtain ⟨text, same⟩ := texts _ List.mem_cons_self
    cases same
    have rest := ih fun other member => texts other (List.mem_cons_of_mem _ member)
    exact congrArg (List.cons _) rest

theorem ofWritten_stable {records : List Written} {current : Json}
    (texts : ∀ record ∈ records, ∃ path, record.path = .str path)
    (stable : ∀ record ∈ records, record.Stable) (read : ofWritten records current = .ok store) :
    store.Stable := by
  obtain ⟨_, _, read⟩ := Outcome.bind_ok.mp read
  obtain ⟨_, _, read⟩ := Outcome.bind_ok.mp read
  cases read
  have entry_of : ∀ entry ∈ tableOf (records.filterMap Written.record?),
      ∃ record, record.written ∈ records ∧ (record.path, record) = entry := by
    intro entry member
    obtain ⟨record, inside, same⟩ := List.mem_map.mp (Table.mem_ofEntries member)
    have known := List.mem_map_of_mem (f := Record.written) inside
    rw [written_record? texts] at known
    exact ⟨record, known, same⟩
  constructor
  · have plain := ofRecords_none (records.filterMap Written.record?) current
    rwa [written_record? texts] at plain
  · exact Table.nodup_ofEntries _
  · intro entry member
    obtain ⟨record, _, rfl⟩ := entry_of entry member
    rfl
  · intro entry member
    obtain ⟨record, known, rfl⟩ := entry_of entry member
    exact stable record.written known
  · intro path here
    exact (Option.filter_eq_some_iff.mp here).2

end Store

namespace Submission

def Stable (submission : Submission) : Prop :=
  ∀ file ∈ submission.files, file.2.Stable

theorem fileOfJson_stable (read : fileOfJson value = .ok file) : file.2.Stable := by
  obtain ⟨⟨path, record⟩, _, read⟩ := Outcome.bind_ok.mp read
  obtain ⟨written, known, same⟩ := Outcome.bind_ok.mp read
  cases same
  exact Written.ofJson_stable known

theorem ofJson_stable (read : ofJson value = .ok submission) : submission.Stable := by
  obtain ⟨_, _, read⟩ := Outcome.bind_ok.mp read
  obtain ⟨_, _, read⟩ := Outcome.bind_ok.mp read
  obtain ⟨_, _, read⟩ := Outcome.bind_ok.mp read
  obtain ⟨_, _, read⟩ := Outcome.bind_ok.mp read
  obtain ⟨_, _, read⟩ := Outcome.bind_ok.mp read
  obtain ⟨_, _, read⟩ := Outcome.bind_ok.mp read
  obtain ⟨files, known, same⟩ := Outcome.bind_ok.mp read
  cases same
  intro file member
  obtain ⟨value, _, readFile⟩ := Outcome.mapM_mem known file member
  exact fileOfJson_stable readFile

theorem fileOfJson_arr (stable : Written.Stable file.2) :
    fileOfJson (.arr [file.1, file.2.toJson]) = .ok file := by
  have pair : Json.pair (.arr [file.1, file.2.toJson]) = .ok (file.1, file.2.toJson) := rfl
  simp only [fileOfJson, pair, Outcome.ok_bind, Written.ofJson_toJson stable]
  rfl

theorem ofJson_toJson {submission : Submission} (stable : submission.Stable) :
    ofJson submission.toJson = .ok submission := by
  have id : submission.toJson.member "id" = .ok submission.id := rfl
  have labName : submission.toJson.memberOr "labName" (.str []) = .ok submission.labName := rfl
  have authorName : submission.toJson.memberOr "authorName" (.str []) = .ok submission.authorName := rfl
  have timestamp : submission.toJson.memberOr "timestamp" (.str []) = .ok submission.timestamp := rfl
  have files : submission.toJson.memberOr "files" (.arr []) =
      .ok (.arr (submission.files.map fun file => .arr [file.1, file.2.toJson])) := rfl
  have read : (submission.files.map fun file => Json.arr [file.1, file.2.toJson]).mapM fileOfJson =
      .ok submission.files :=
    Outcome.mapM_map fun file member => fileOfJson_arr (stable file member)
  simp only [ofJson, id, labName, authorName, timestamp, files, Json.items, Outcome.ok_bind, read]
  rfl

end Submission

namespace Workspace
variable {ws : Workspace}

/-- Reading the written form changes nothing in the workspace but the order of its records. -/
structure Stable (ws : Workspace) : Prop where
  store : ws.store.Stable
  few : ws.submissions.length ≤ maxSubmissions
  submissions : ∀ submission ∈ ws.submissions, submission.Stable

theorem recordOfJson_fileJson {record : Written} (stable : record.Stable) :
    recordOfJson (fileJson record) = .ok record := by
  have pair : (fileJson record).pair = .ok (record.path, record.toJson) := rfl
  rw [recordOfJson, pair, Outcome.ok_bind]
  exact Written.ofJson_toJson stable

theorem expansionOfJson_table (table : Table Bool) :
    expansionOfJson (.obj (table.map fun entry => (entry.1, .bool entry.2))) = .ok ⟨table, 0⟩ := by
  cases table with
  | nil => rfl
  | cons entry table =>
    have flags : ((entry :: table).map fun entry => (entry.1, Json.bool entry.2)).map
        (fun member => (member.1, member.2.truthy)) = entry :: table := by
      rw [List.map_map]
      exact List.map_id _
    exact congrArg (fun table => Except.ok (Expansion.mk table 0)) flags

/-- What is read from the written form of a workspace. -/
def reread (ws : Workspace) (disk : Disk) : Workspace :=
  ⟨{ ws.store with files := ws.store.sorted, revision := 0 }, ⟨ws.expansion.table, 0⟩, ws.settings,
    ws.submissions, disk⟩

theorem ofJson_toJson (stable : ws.Stable) (disk : Disk) :
    ofJson ws.toJson disk = .ok (ws.reread disk) := by
  have files : ws.toJson.memberOr "files" (.arr []) = .ok (.arr (ws.store.listing.map fileJson)) := rfl
  have current : ws.toJson.memberOr "currentFile" .null = .ok ws.store.current := rfl
  have expansion : ws.toJson.memberOr "folderExpansionState" (.obj []) =
      .ok (.obj (ws.expansion.table.map fun entry => (entry.1, .bool entry.2))) := rfl
  have settings : ws.toJson.memberOr "userSettings" (.obj []) = .ok ws.settings.toJson := rfl
  have submissions : ws.toJson.memberOr "previousSubmissions" (.arr []) =
      .ok (.arr (ws.submissions.map Submission.toJson)) := rfl
  have readRecords : (ws.store.listing.map fileJson).mapM recordOfJson = .ok ws.store.listing :=
    Outcome.mapM_map fun record member => recordOfJson_fileJson (stable.store.listed record member)
  have readSubmissions : (ws.submissions.map Submission.toJson).mapM Submission.ofJson =
      .ok ws.submissions :=
    Outcome.mapM_map fun submission member => Submission.ofJson_toJson (stable.submissions submission member)
  simp only [ofJson, files, current, expansion, settings, submissions, Json.items, Outcome.ok_bind,
    readRecords, stable.store.ofWritten_listing, expansionOfJson_table, Settings.ofJson_toJson,
    readSubmissions, List.take_of_length_le stable.few]
  rfl

theorem reread_records (ws : Workspace) (disk : Disk) :
    (ws.reread disk).store.records = ws.store.records := by
  rw [Store.records_sorted, Store.records_sorted, reread, Store.sorted_sorted]

theorem reread_toJson (ws : Workspace) (disk : Disk) :
    (ws.reread disk).toJson = ws.toJson := by
  have listing : (ws.reread disk).store.listing = ws.store.listing :=
    congrArg (ws.store.strays.sorted.map (·.2) ++ List.map Record.written ·) (reread_records ws disk)
  rw [toJson, listing]
  rfl

/-- The records that a file lists. -/
def recordsOfJson (value : Json) : Except Fault (List Written) := do
  let files ← (← value.memberOr "files" (.arr [])).items
  files.mapM recordOfJson

/-- All records that a file lists have texts as paths. -/
def HasTextPaths (value : Json) : Prop :=
  ∀ records, recordsOfJson value = .ok records → ∀ record ∈ records, ∃ path, record.path = .str path

theorem ofJson_stable {disk : Disk} (texts : HasTextPaths value)
    (read : ofJson value disk = .ok ws) : ws.Stable := by
  obtain ⟨files, there, read⟩ := Outcome.bind_ok.mp read
  obtain ⟨items, listed, read⟩ := Outcome.bind_ok.mp read
  obtain ⟨records, known, read⟩ := Outcome.bind_ok.mp read
  obtain ⟨current, _, read⟩ := Outcome.bind_ok.mp read
  obtain ⟨store, made, read⟩ := Outcome.bind_ok.mp read
  obtain ⟨_, _, read⟩ := Outcome.bind_ok.mp read
  obtain ⟨_, _, read⟩ := Outcome.bind_ok.mp read
  obtain ⟨_, _, read⟩ := Outcome.bind_ok.mp read
  obtain ⟨_, _, read⟩ := Outcome.bind_ok.mp read
  obtain ⟨_, _, read⟩ := Outcome.bind_ok.mp read
  obtain ⟨_, _, read⟩ := Outcome.bind_ok.mp read
  obtain ⟨submissions, remembered, read⟩ := Outcome.bind_ok.mp read
  cases read
  have all : recordsOfJson value = .ok records := by
    rw [recordsOfJson, there, Outcome.ok_bind, listed, Outcome.ok_bind, known]
  refine ⟨Store.ofWritten_stable (texts records all) ?_ made, List.length_take_le _ _, ?_⟩
  · intro record member
    obtain ⟨item, _, readRecord⟩ := Outcome.mapM_mem known record member
    obtain ⟨_, _, readRecord⟩ := Outcome.bind_ok.mp readRecord
    exact Written.ofJson_stable readRecord
  · intro submission member
    obtain ⟨item, _, readSubmission⟩ :=
      Outcome.mapM_mem remembered submission (List.mem_of_mem_take member)
    exact Submission.ofJson_stable readSubmission

theorem Sound.stable (sound : ws.Sound) : ws.Stable := by
  refine ⟨sound.store.stable, sound.few, fun submission member file inside => ?_⟩
  obtain ⟨past, listed, files⟩ := sound.listed submission member
  rw [files] at inside
  obtain ⟨record, known, rfl⟩ := List.mem_map.mp inside
  exact listed.stable.listed record known

/-- A workspace that was opened from a file, or that calls have made from an empty one. -/
inductive Attained : Workspace → Prop where
  | loaded {limit : Nat} {content : Text} {value : Json} {opened : Workspace}
    (read : Json.read limit content = .ok value) (texts : HasTextPaths value)
    (loaded : load limit (some content) = .ok opened) : Attained opened
  | reached (disk : Disk) (steps : List Step) : Attained ((empty disk).after steps)

theorem load_read (read : Json.read limit content = .ok value) :
    load limit (some content) = ofJson value (.holds content) := by
  simp only [load, read]

theorem Attained.stable (attained : Attained ws) : ws.Stable := by
  cases attained with
  | loaded read texts loaded =>
    rw [load_read read] at loaded
    exact ofJson_stable texts loaded
  | reached disk steps => exact ((Sound.empty disk).after steps).stable

/-- Nothing is lost by writing a workspace and reading it again. -/
theorem ofJson_toJson_same (attained : Attained ws) (disk : Disk) :
    ∃ again, ofJson ws.toJson disk = .ok again ∧ again.toJson = ws.toJson ∧
      again.store.records = ws.store.records ∧ again.store.current = ws.store.current ∧
      again.settings = ws.settings ∧ again.expansion.table = ws.expansion.table ∧
      again.submissions = ws.submissions := by
  have read := ofJson_toJson attained.stable disk
  exact ⟨_, read, reread_toJson ws disk, reread_records ws disk, rfl, rfl, rfl, rfl⟩

theorem ofJson_toJson_same_unnamed :
    ∃ ws, load 100 (some "\x7b\"files\": [[\"a.md\", \x7b\"path\": \"a.md\"\x7d]]\x7d") = .ok ws ∧
      ∃ again, ofJson ws.toJson .absent = .ok again ∧ again.toJson = ws.toJson := by
  have read : Json.read 100 "\x7b\"files\": [[\"a.md\", \x7b\"path\": \"a.md\"\x7d]]\x7d" =
      .ok (.obj [("files", .arr [.arr [.str "a.md", .obj [("path", .str "a.md")]]])]) := by
    cbv
  have texts : HasTextPaths (.obj [("files", .arr [.arr [.str "a.md", .obj [("path", .str "a.md")]]])]) := by
    intro records listed record member
    cases listed
    cases List.mem_singleton.mp member
    exact ⟨_, rfl⟩
  obtain ⟨ws, loaded⟩ : ∃ ws, load 100 (some _) = .ok ws := ⟨_, load_read read⟩
  obtain ⟨again, reread, same, _⟩ := ofJson_toJson_same (.loaded read texts loaded) .absent
  exact ⟨ws, loaded, again, reread, same⟩

end Workspace
end LabEditor
