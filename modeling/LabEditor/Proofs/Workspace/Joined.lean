import LabEditor.Proofs.Json.Ascii
import LabEditor.Proofs.Workspace.Contents
import LabEditor.Proofs.Workspace.RoundTrip
import LabEditor.Proofs.Workspace.Tree

/-! The texts of a workspace. None of them holds a character as its two halves, if none is brought so by a
call: paths are made of parts of texts with slashes between, and all else is kept as it is. -/
namespace LabEditor

namespace Path
variable {path typed old new : Text} {parts : List Text}

theorem joined_segments (joined : path.Joined) : ∀ segment ∈ segments path, segment.Joined :=
  fun _ member => joined.part (Text.infix_of_mem_cut (List.mem_of_mem_filter member))

theorem joined_ofSegments (each : ∀ segment ∈ parts, segment.Joined) : (ofSegments parts).Joined :=
  Text.Joined.glue each (by decide)

theorem joined_normalize (joined : typed.Joined) : (normalize typed).Joined := by
  rw [normalize]
  split
  · exact .nil
  · refine joined_ofSegments (joined_segments (Text.Joined.trim (joined.map fun c => ?_)))
    split
    · exact Or.inr (by decide)
    · exact Or.inl rfl

theorem joined_basename (joined : path.Joined) : (basename path).Joined := by
  rw [basename]
  cases last : (segments path).getLast? with
  | none => exact .nil
  | some name => exact joined_segments joined name (List.mem_of_getLast? last)

theorem joined_relocated (joined : path.Joined) (target : new.Joined) : (relocated old new path).Joined := by
  rw [relocated, rebase]
  split
  · split
    · rename_i rest found
      have below : ∀ segment ∈ rest, segment.Joined := fun segment member =>
        joined_segments joined segment (below?_eq_some.mp found ▸ List.mem_append_right _ member)
      exact joined_ofSegments (List.forall_mem_append.mpr ⟨joined_segments target, below⟩)
    · exact joined
  · exact joined

end Path

namespace Store
variable {store next : Store} {record : Record} {old new typed : Text} {texts : List Text}

/-- The paths of all records are whole. -/
def Joined (store : Store) : Prop :=
  ∀ key ∈ store.files.keys, key.Joined

namespace Joined

theorem create (joined : store.Joined) (whole : typed.Joined)
    (made : store.create typed isDirectory content = .ok (next, record)) : next.Joined := by
  obtain ⟨_, absent, rfl, rfl⟩ := create_ok made
  simp only [Store.Joined, changed, Table.keys_put, if_neg absent, List.mem_append, List.mem_singleton]
  rintro key (before | rfl)
  · exact joined key before
  · exact Path.joined_normalize whole

theorem worded (joined : store.Joined) (canonical : Path.Canonical new) (whole : ∀ t ∈ texts, t.Joined)
    (worded : store.Worded texts new) : new.Joined := by
  rw [← canonical]
  refine Path.joined_ofSegments fun segment member => ?_
  rcases worded segment member with ⟨t, known, inside⟩ | ⟨key, known, inside⟩
  · exact Path.joined_segments (whole t known).trim segment inside
  · exact Path.joined_segments (joined key known) segment inside

theorem relocated (joined : store.Joined) (sound : store.Sound) (whole : ∀ t ∈ texts, t.Joined)
    (worded : store.Worded texts new) (relocated : store.Relocated old new next) : next.Joined := by
  intro key member
  rw [(relocated.carries sound).order] at member
  obtain ⟨before, known, rfl⟩ := List.mem_map.mp member
  exact Path.joined_relocated (joined before known)
    (joined.worded (relocated.suits sound).place.canonical whole worded)

/-- What is a folder is a record, or the beginning of the path of one. -/
theorem folder (joined : store.Joined) (folder : isFolder store.files path = true) : path.Joined := by
  rcases isFolder_iff.mp folder with ⟨key, known, above⟩ | ⟨record, found, _⟩
  · rw [Path.isAncestor, Bool.and_eq_true, Text.startsWith_iff] at above
    exact (joined key known).part ((List.prefix_append _ _).trans above.2).isInfix
  · exact joined path (Table.mem_keys_of_get? found)

theorem mono (joined : store.Joined) (keys : ∀ key ∈ next.files.keys, key ∈ store.files.keys) :
    next.Joined :=
  fun key member => joined key (keys key member)

theorem delete (joined : store.Joined) (deleted : store.delete path = .ok (next, removed)) :
    next.Joined := by
  obtain ⟨_, _, _, result⟩ := delete_ok deleted
  refine joined.mono fun key member => ?_
  rw [result] at member
  simp only [changed, Table.keys_keep, List.mem_filter] at member
  exact member.1

theorem call (joined : store.Joined) (sound : store.Sound) (call : Call) (whole : ∀ t ∈ call.texts, t.Joined)
    (done : call.outcome store = .ok next) : next.Joined := by
  cases call with
  | create typed isDirectory content =>
    obtain ⟨_, made, rfl⟩ := Outcome.map_eq_ok.mp done
    exact joined.create (whole typed List.mem_cons_self) (Outcome.ofRefusal_eq_ok.mp made)
  | write path content =>
    obtain ⟨record, found, _, rfl⟩ := write_ok (Outcome.ofRefusal_eq_ok.mp done)
    have known := Table.mem_keys_of_get? found
    refine joined.mono fun key member => ?_
    simpa only [changed, Table.keys_put, known, if_true] using member
  | openFile path =>
    obtain ⟨_, opened, rfl⟩ := Outcome.map_eq_ok.mp done
    obtain ⟨_, _, result⟩ := openFile_ok (Outcome.ofRefusal_eq_ok.mp opened)
    exact result ▸ joined
  | close =>
    cases done
    rw [Store.close]
    split <;> exact joined
  | rename path newName =>
    obtain ⟨_, renamed, rfl⟩ := Outcome.map_eq_ok.mp done
    have changed := Outcome.ofRefusal_eq_ok.mp renamed
    exact joined.relocated sound whole (rename_worded changed) (Or.inl ⟨newName, changed⟩)
  | move source folder =>
    obtain ⟨_, moved, rfl⟩ := Outcome.map_eq_ok.mp done
    have changed := Outcome.ofRefusal_eq_ok.mp moved
    exact joined.relocated sound whole (move_worded changed) (Or.inr ⟨folder, changed⟩)
  | delete path =>
    obtain ⟨_, deleted, rfl⟩ := Outcome.map_eq_ok.mp done
    exact joined.delete (Outcome.ofRefusal_eq_ok.mp deleted)

theorem replaceAll {records : List Record} (whole : ∀ record ∈ records, record.path.Joined) (store : Store) :
    (store.replaceAll records).Joined := by
  intro key member
  obtain ⟨record, known⟩ := Table.mem_keys.mp member
  obtain ⟨listed, inside, same⟩ := List.mem_map.mp (Table.mem_ofEntries known)
  obtain ⟨rfl, rfl⟩ := Prod.mk.inj same
  exact whole listed inside

end Joined
end Store

/-- A lab is made of whole texts. -/
theorem Lab.Offered.joined (offered : Offered file) :
    file.1.Joined ∧ Json.Joined (.str (file.2.getD [])) := by
  rw [Json.joined_str]
  cases offered with
  | starter member =>
    have each : ∀ file ∈ starterFiles, file.1.Joined ∧ (file.2.getD []).Joined := by decide +kernel
    exact each file member
  | index title description image files =>
    have path : indexFile.Joined := by decide
    exact ⟨path, Text.Joined.ascii (Json.isAscii_indented _)⟩

theorem Store.Joined.scaffold {store : Store} (joined : store.Joined) (title image : Text) :
    (Lab.scaffold store title image).1.Joined :=
  Lab.scaffold_keeps (fun offered before made => before.create offered.joined.1 made) joined title image

theorem Clock.isAscii_padded (width n : Nat) : Text.IsAscii (padded width n) := by
  rw [padded]
  simp

theorem Clock.joined_timestamp (clock : Clock) : clock.timestamp.Joined := by
  refine .ascii ?_
  simp [timestamp, date, time, isAscii_padded, List.intercalate]

section
open Record (Written)

/-- A written record is whole if its name, its path and its content are. -/
theorem Record.Written.joined_iff {record : Written} : record.toJson.Joined ↔
    record.name.Joined ∧ record.path.Joined ∧ record.content.Joined := by
  simp only [Written.toJson, Json.joined_obj, List.forall_mem_cons, List.not_mem_nil, false_implies,
    implies_true, and_true, Text.Joined.of_chars, true_and, Json.joined_bool]

theorem Submission.joined_iff {submission : Submission} : submission.toJson.Joined ↔
    (submission.id.Joined ∧ submission.labName.Joined ∧ submission.authorName.Joined ∧
      submission.timestamp.Joined) ∧
      ∀ file ∈ submission.files, file.1.Joined ∧ file.2.toJson.Joined := by
  simp only [toJson, toJsonWith, Json.joined_obj, Json.joined_arr, List.forall_mem_cons,
    List.forall_mem_map, List.not_mem_nil, false_implies, implies_true, and_true,
    Text.Joined.of_chars, true_and,
    and_assoc]

/-- The listed records of a store are whole if its paths and contents are. -/
theorem Store.Joined.listing {store : Store} (joined : store.Joined) (contents : store.Bears Json.Joined)
    (sound : store.Sound) : ∀ record ∈ store.listing, record.path.Joined ∧ record.toJson.Joined := by
  rw [listing_plain sound.plain, records_sorted]
  intro written member
  obtain ⟨record, inside, rfl⟩ := List.mem_map.mp member
  obtain ⟨entry, known, rfl⟩ := List.mem_map.mp inside
  have there := (perm_sorted store).mem_iff.mp known
  have own := sound.records entry there
  have key : entry.1.Joined := joined entry.1 (Table.mem_keys.mpr ⟨entry.2, there⟩)
  have path : Json.Joined (.str entry.2.path) := Json.joined_str.mpr (sound.paths entry there ▸ key)
  refine ⟨path, Written.joined_iff.mpr ⟨?_, path, contents entry there⟩⟩
  rw [Record.written, own.name, Json.joined_str]
  exact Path.joined_basename key

end

namespace Workspace
variable {ws next : Workspace} {contents : List Json} {texts : List Text} {labels? : Option Labels}

/-- No text that a step brings holds a character as its two halves. -/
def Step.Joined (step : Step) : Prop :=
  (∀ content ∈ step.contents, content.Joined) ∧ ∀ t ∈ step.texts, t.Joined

instance : DecidablePred Step.Joined := fun step =>
  inferInstanceAs (Decidable ((∀ content ∈ step.contents, content.Joined) ∧ ∀ t ∈ step.texts, t.Joined))

/-- All texts of a workspace are whole. -/
structure Joined (ws : Workspace) : Prop where
  store : ws.store.Joined
  contents : ws.Bears Json.Joined
  folders : ∀ key ∈ ws.expansion.table.keys, key.Joined
  submissions : ∀ submission ∈ ws.submissions, submission.toJson.Joined

namespace Joined

theorem empty (disk : Disk) : (empty disk).Joined where
  store := fun _ none => absurd none List.not_mem_nil
  contents := Bears.empty disk
  folders := fun _ none => absurd none List.not_mem_nil
  submissions := fun _ none => absurd none List.not_mem_nil

theorem toJson (joined : ws.Joined) (sound : ws.Sound) : ws.toJson.Joined := by
  have files : Json.Joined (.arr (ws.store.listing.map fileJson)) := by
    simp only [Json.joined_arr, List.forall_mem_map, fileJson, List.forall_mem_cons, List.not_mem_nil,
      false_implies, implies_true, and_true]
    exact joined.store.listing joined.contents.store sound.store
  have current : ws.store.current.Joined := by
    rw [Store.current, sound.store.plain]
    cases here : ws.store.currentFile with
    | none => exact Json.joined_null
    | some path =>
      obtain ⟨record, found, _⟩ := Store.isFile_iff.mp (sound.store.current path here)
      exact Json.joined_str.mpr (joined.store path (Table.mem_keys_of_get? found))
  have settings : ws.settings.toJson.Joined := by
    obtain ⟨theme, autoDetect⟩ := ws.settings
    cases theme <;> cases autoDetect <;> decide
  have submissions : Json.Joined (.arr (ws.submissions.map Submission.toJson)) := by
    simp only [Json.joined_arr, List.forall_mem_map]
    exact joined.submissions
  simp only [Workspace.toJson, Json.joined_obj, List.forall_mem_cons, List.not_mem_nil, false_implies,
    implies_true, and_true, Text.Joined.of_chars, true_and, files, current, settings, submissions,
    List.forall_mem_map, Json.joined_bool]
  exact fun entry member => joined.folders entry.1 (Table.mem_keys.mpr ⟨entry.2, member⟩)

theorem submitted (joined : ws.Joined) (sound : ws.Sound) {id labName authorName : Text}
    (whole : ∀ t ∈ [id, labName, authorName], t.Joined) (clock : Clock) :
    ∀ submission ∈ (ws.recordSubmission id clock labName authorName).1.submissions,
      submission.toJson.Joined := by
  rw [recordSubmission, save_submissions]
  simp only [List.forall_mem_cons, List.not_mem_nil, false_implies, implies_true, and_true] at whole ⊢
  refine ⟨Submission.joined_iff.mpr ⟨?_, ?_⟩, fun submission member =>
    joined.submissions submission (List.mem_of_mem_take member)⟩
  · simp only [Json.joined_str]
    exact ⟨whole.1, whole.2.1, whole.2.2, clock.joined_timestamp⟩
  · simp only [List.forall_mem_map]
    exact joined.store.listing joined.contents.store sound.store

theorem restored {store : Store} {submission : Submission} (joined : ws.Joined) (sound : ws.Sound)
    (known : submission ∈ ws.submissions)
    (replaced : ws.store.replaceWritten (submission.files.map (·.2)) = .ok store) : store.Joined := by
  obtain ⟨past, _, files, rfl⟩ := sound.past known replaced
  refine Store.Joined.replaceAll (fun record member => ?_) ws.store
  obtain ⟨file, there, same⟩ := List.mem_map.mp (files ▸ List.mem_map_of_mem member)
  have whole := ((Submission.joined_iff.mp (joined.submissions submission known)).2 file there).2
  rw [same] at whole
  exact Json.joined_str.mp (Record.Written.joined_iff.mp whole).2.1

theorem of_store (joined : ws.Joined) (store : next.store.Joined) (contents : next.Bears Json.Joined)
    (folders : ∀ key ∈ next.expansion.table.keys, key.Joined)
    (same : next.submissions = ws.submissions) : next.Joined :=
  ⟨store, contents, folders, same ▸ joined.submissions⟩

theorem leads_store (joined : ws.Joined) (sound : ws.Sound) (whole : ∀ t ∈ texts, t.Joined)
    (leads : Leads ws contents texts labels? next) : next.store.Joined := by
  cases leads with
  | records call _ worded done =>
    rw [withStore_store]
    exact joined.store.call sound.store call (worded ▸ whole) done
  | relocated worded relocated =>
    rw [save_store]
    exact joined.store.relocated sound.store whole worded relocated
  | deleted deleted =>
    rw [save_store]
    exact joined.store.delete deleted
  | toggled | settings =>
    rw [save_store]
    exact joined.store
  | submitted =>
    rw [recordSubmission, save_store]
    exact joined.store
  | restored known replaced =>
    rw [withStore_store]
    exact joined.restored sound known replaced

theorem leads_folders (joined : ws.Joined) (sound : ws.Sound) (whole : ∀ t ∈ texts, t.Joined)
    (leads : Leads ws contents texts labels? next) :
    ∀ key ∈ next.expansion.table.keys, key.Joined := by
  cases leads with
  | relocated worded relocated =>
    have target := joined.store.worded (relocated.suits sound.store).place.canonical whole worded
    rw [save_expansion, Expansion.table_rebase]
    intro key member
    obtain ⟨value, there⟩ := Table.mem_keys.mp member
    obtain ⟨⟨before, _⟩, known, same⟩ := List.mem_map.mp (Table.mem_ofEntries there)
    cases same
    exact Path.joined_relocated (joined.folders before (Table.mem_keys.mpr ⟨_, known⟩)) target
  | deleted =>
    rw [save_expansion, Expansion.table_forget, Table.keys_keep]
    exact fun key member => joined.folders key (List.mem_filter.mp member).1
  | toggled folder =>
    rw [save_expansion, Expansion.table_toggle]
    intro key member
    rcases Table.mem_keys_put.mp member with before | rfl
    · exact joined.folders key before
    · exact joined.store.folder (checkFolder_ok folder)
  | settings =>
    rw [save_expansion]
    exact joined.folders
  | submitted =>
    rw [recordSubmission, save_expansion]
    exact joined.folders
  | records | restored =>
    rw [withStore_expansion]
    exact joined.folders

theorem leads (joined : ws.Joined) (sound : ws.Sound) (given : ∀ content ∈ contents, content.Joined)
    (whole : ∀ t ∈ texts, t.Joined) (leads : Leads ws contents texts labels? next) : next.Joined := by
  have store := joined.leads_store sound whole leads
  have bears := joined.contents.leads (Json.joined_str.mpr .nil) sound given leads
  have folders := joined.leads_folders sound whole leads
  cases leads with
  | submitted id clock labName authorName worded =>
    exact ⟨store, bears, folders, joined.submitted sound (worded ▸ whole) clock⟩
  | records | restored => exact joined.of_store store bears folders (withStore_submissions _ _)
  | relocated | deleted | toggled | settings =>
    exact joined.of_store store bears folders (save_submissions _)

theorem step (joined : ws.Joined) (sound : ws.Sound) (step : Step) (brought : step.Joined) :
    (ws.step step).Joined := by
  obtain ⟨given, whole⟩ := brought
  cases step with
  | call call =>
    rcases step_call ws call with same | done
    · rwa [same]
    · exact joined.leads sound given whole (.outcome call done)
  | scaffold title image =>
    rw [step_scaffold]
    have bears := joined.contents.step (Json.joined_str.mpr .nil) (fun _ _ offered => offered.joined.2) sound
      (.scaffold title image) given
    rw [step_scaffold] at bears
    refine joined.of_store ?_ bears ?_ (withStore_submissions _ _)
    · rw [withStore_store]
      exact joined.store.scaffold title image
    · rw [withStore_expansion]
      exact joined.folders

theorem after (joined : ws.Joined) (sound : ws.Sound) (steps : List Step)
    (brought : ∀ step ∈ steps, step.Joined) : (ws.after steps).Joined := by
  induction steps generalizing ws with
  | nil => exact joined
  | cons step steps ih =>
    rw [List.forall_mem_cons] at brought
    exact ih (joined.step sound step brought.1) (sound.step step) brought.2

theorem reread (joined : ws.Joined) (disk : Disk) : (ws.reread disk).Joined where
  store := fun key member =>
    joined.store key (((Store.perm_sorted ws.store).map Prod.fst).mem_iff.mp member)
  contents := ⟨fun entry member => joined.contents.store entry ((Store.perm_sorted ws.store).mem_iff.mp member),
    joined.contents.submissions⟩
  folders := joined.folders
  submissions := joined.submissions

end Joined
end Workspace
end LabEditor
