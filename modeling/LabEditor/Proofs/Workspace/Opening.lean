import LabEditor.Proofs.Json.Access
import LabEditor.Proofs.Store.Written
import LabEditor.Workspace.Basic
import Mathlib

/-! Which files are opened. The bytes must be UTF-8. If they hold no JSON, the workspace is empty; if they
hold a value, it must have the shape that is set out here. No other file is opened. -/
namespace LabEditor

open Record (Written)

namespace Record
variable {value path : Json} {members : Table Json} {P : Json → Prop}

/-- The members that a written record must have: a path, and a name if the path is no text. -/
structure IsWritten (members : Table Json) (path : Json) : Prop where
  located : members.get? "path" = some path
  named : path.text?.isSome = true ∨ ∃ name, members.get? "name" = some name ∧ name.truthy = true

/-- A pair of anything and a written record, whose path passes a test. -/
inductive IsEntry (P : Json → Prop) : Json → Prop
  | pair {first path : Json} {members : Table Json} :
    IsWritten members path → P path → IsEntry P (.arr [first, .obj members])

namespace Written

theorem nameOf_ok {given : Json} :
    (∃ name, nameOf given path = .ok name) ↔ path.text?.isSome = true ∨ given.truthy = true := by
  unfold nameOf
  cases truthy : given.truthy with
  | true => simp
  | false =>
    cases path with
    | str t => simp [Json.text?]
    | _ => simp [Json.text?]

/-- Of a record that has a path, only the name may be missing. -/
theorem ofJson_obj (located : members.get? "path" = some path) :
    ∃ content isDirectory, ofJson (.obj members) =
      (nameOf ((members.get? "name").getD .null) path).map fun name =>
        ⟨name, path, content, isDirectory⟩ := by
  have path : (Json.obj members).member "path" = .ok path := Json.member_ok.mpr ⟨_, rfl, located⟩
  let flag := ((members.get? "isDirectory").getD (.bool false)).truthy
  have held : ∃ content, contentOf (.obj members) flag = .ok content := by
    rw [contentOf]
    split
    · exact ⟨_, rfl⟩
    · exact ⟨_, rfl⟩
  obtain ⟨content, held⟩ := held
  refine ⟨content, flag, ?_⟩
  rw [ofJson_ofMembers, ofMembers, path]
  simp only [Json.memberOr, Outcome.ok_bind]
  rw [held]
  cases nameOf ((members.get? "name").getD .null) _ <;> rfl

theorem ofJson_ok : (∃ record, ofJson value = .ok record ∧ record.path = path) ↔
    ∃ members, value = .obj members ∧ IsWritten members path := by
  constructor
  · rintro ⟨record, read, rfl⟩
    obtain ⟨path, taken, _⟩ := Outcome.bind_ok.mp read
    obtain ⟨members, rfl, located⟩ := Json.member_ok.mp taken
    obtain ⟨content, isDirectory, same⟩ := ofJson_obj located
    obtain ⟨name, named, rfl⟩ := Outcome.map_eq_ok.mp (same ▸ read)
    exact ⟨members, rfl, located, (nameOf_ok.mp ⟨name, named⟩).imp_right Json.truthy_getD.mp⟩
  · rintro ⟨members, rfl, located, named⟩
    obtain ⟨content, isDirectory, same⟩ := ofJson_obj located
    obtain ⟨name, named⟩ := nameOf_ok.mpr (named.imp_right Json.truthy_getD.mpr)
    exact ⟨_, same.trans (Outcome.map_eq_ok.mpr ⟨name, named, rfl⟩), rfl⟩

end Written

theorem IsEntry.noText (t : Text) : ¬ IsEntry P (.str t) := by
  rintro ⟨⟩

theorem recordOfJson_ok :
    (∃ record, Workspace.recordOfJson value = .ok record ∧ P record.path) ↔
      IsEntry P value := by
  constructor
  · rintro ⟨record, read, isPath⟩
    obtain ⟨⟨first, second⟩, pair, read⟩ := Outcome.bind_ok.mp read
    obtain ⟨members, rfl, written⟩ := Written.ofJson_ok.mp ⟨record, read, rfl⟩
    -- Its second part is an object, which no text or object has among its items.
    cases Json.pair_obj.mp pair
    exact .pair written isPath
  · rintro ⟨written, isPath⟩
    obtain ⟨record, read, rfl⟩ := Written.ofJson_ok.mpr ⟨_, rfl, written⟩
    exact ⟨record, Outcome.bind_ok.mpr ⟨_, Json.pair_obj.mpr rfl, read⟩, isPath⟩

end Record

namespace Submission
variable {value : Json}

/-- A submission has an id, and its files, if any, are listed with records; that their paths are keys is
not asked for. -/
inductive IsWritten : Json → Prop
  | object {members : Table Json} {id : Json} : members.get? "id" = some id →
    Json.Fits members "files" (Json.IsListOf (Record.IsEntry fun _ => True)) →
    IsWritten (.obj members)

theorem fileOfJson_ok :
    (∃ file, fileOfJson value = .ok file) ↔ Record.IsEntry (fun _ => True) value := by
  rw [← Record.recordOfJson_ok]
  constructor
  · rintro ⟨file, read⟩
    obtain ⟨pair, taken, read⟩ := Outcome.bind_ok.mp read
    obtain ⟨record, read, _⟩ := Outcome.bind_ok.mp read
    exact ⟨record, Outcome.bind_ok.mpr ⟨pair, taken, read⟩, trivial⟩
  · rintro ⟨record, read, _⟩
    obtain ⟨pair, taken, read⟩ := Outcome.bind_ok.mp read
    refine ⟨(pair.1, record), Outcome.bind_ok.mpr ⟨pair, taken, ?_⟩⟩
    exact Outcome.bind_ok.mpr ⟨record, read, rfl⟩

theorem files_ok {members : Table Json} :
    (∃ files, (Json.obj members).readList "files" fileOfJson = .ok files) ↔
      Json.Fits members "files" (Json.IsListOf (Record.IsEntry fun _ => True)) := by
  rw [Json.readList_ok fun t => fileOfJson_ok.not.mpr (Record.IsEntry.noText t)]
  simp only [fileOfJson_ok]

theorem ofJson_readList (value : Json) : ofJson value = (do
    let id ← value.member "id"
    let labName ← value.memberOr "labName" (.str [])
    let authorName ← value.memberOr "authorName" (.str [])
    let timestamp ← value.memberOr "timestamp" (.str [])
    let files ← value.readList "files" fileOfJson
    pure ⟨id, labName, authorName, timestamp, files⟩) := by
  simp only [ofJson, Json.readList, bind_assoc]

theorem ofJson_ok : (∃ submission, ofJson value = .ok submission) ↔ IsWritten value := by
  rw [ofJson_readList]
  constructor
  · rintro ⟨submission, read⟩
    obtain ⟨id, known, read⟩ := Outcome.bind_ok.mp read
    obtain ⟨_, _, read⟩ := Outcome.bind_ok.mp read
    obtain ⟨_, _, read⟩ := Outcome.bind_ok.mp read
    obtain ⟨_, _, read⟩ := Outcome.bind_ok.mp read
    obtain ⟨files, read, _⟩ := Outcome.bind_ok.mp read
    obtain ⟨members, rfl, located⟩ := Json.member_ok.mp known
    exact .object located (files_ok.mp ⟨files, read⟩)
  · rintro ⟨located, fits⟩
    obtain ⟨files, read⟩ := files_ok.mpr fits
    rw [Json.member_ok.mpr ⟨_, rfl, located⟩, read]
    exact ⟨_, rfl⟩

end Submission

theorem Store.ofWritten_ok {records : List Written} {current : Json} :
    (∃ store, ofWritten records current = .ok store) ↔
      (∀ record ∈ records, record.path.isKey = true) ∧ current.isKey = true := by
  have check (paths : List Json) :
      checkKeys paths = .ok () ↔ ∀ path ∈ paths, path.isKey = true := by
    simp [checkKeys, List.all_eq_true]
  simp only [ofWritten, Outcome.bind_ok, check]
  simp

namespace Workspace
variable {members : Table Json} {value : Json} {disk : Disk}

/-- The shape of a written workspace. All of its parts may be missing. -/
structure IsWritten (members : Table Json) : Prop where
  files : Json.Fits members "files" (Json.IsListOf (Record.IsEntry fun path => path.isKey = true))
  current : Json.Fits members "currentFile" fun path => path.isKey = true
  expansion : Json.Fits members "folderExpansionState" fun table =>
    table.truthy = true → ∃ flags, table = .obj flags
  settings : Json.Fits members "userSettings" fun settings => ∃ chosen, settings = .obj chosen
  submissions : Json.Fits members "previousSubmissions" (Json.IsListOf Submission.IsWritten)

theorem expansionOfJson_ok : (∃ expansion, expansionOfJson value = .ok expansion) ↔
    (value.truthy = true → ∃ flags, value = .obj flags) := by
  cases truthy : value.truthy with
  | false => simp [expansionOfJson, truthy]
  | true =>
    cases value with
    | obj flags => simp [expansionOfJson, truthy]
    | _ => simp [expansionOfJson, truthy]

theorem settings_ok : (∃ settings, Settings.ofJson value = .ok settings) ↔
    ∃ chosen, value = .obj chosen := by
  constructor
  · rintro ⟨settings, read⟩
    obtain ⟨theme, asked, _⟩ := Outcome.bind_ok.mp read
    exact Json.memberOr_ok asked
  · rintro ⟨chosen, rfl⟩
    exact ⟨_, rfl⟩

theorem current_ok :
    (∃ current, (Json.obj members).memberOr "currentFile" .null = .ok current ∧ current.isKey = true) ↔
      Json.Fits members "currentFile" fun path => path.isKey = true :=
  Json.memberOr_fits .null rfl

theorem table_ok :
    (∃ table, (Json.obj members).memberOr "folderExpansionState" (.obj []) = .ok table ∧
      ∃ expansion, expansionOfJson table = .ok expansion) ↔
      Json.Fits members "folderExpansionState" fun table =>
        table.truthy = true → ∃ flags, table = .obj flags := by
  simp only [expansionOfJson_ok]
  exact Json.memberOr_fits (.obj []) nofun

theorem chosen_ok :
    (∃ chosen, (Json.obj members).memberOr "userSettings" (.obj []) = .ok chosen ∧
      ∃ settings, Settings.ofJson chosen = .ok settings) ↔
      Json.Fits members "userSettings" fun settings => ∃ chosen, settings = .obj chosen := by
  simp only [settings_ok]
  exact Json.memberOr_fits (.obj []) ⟨[], rfl⟩

theorem records_ok :
    (∃ records, (Json.obj members).readList "files" recordOfJson = .ok records ∧
      ∀ record ∈ records, record.path.isKey = true) ↔
      Json.Fits members "files" (Json.IsListOf (Record.IsEntry fun path => path.isKey = true)) := by
  have known {value : Json} :
      (∃ record, recordOfJson value = .ok record ∧ record.path.isKey = true) ↔
        Record.IsEntry (fun path => path.isKey = true) value :=
    Record.recordOfJson_ok (P := fun path => path.isKey = true)
  rw [Json.readList_fits (R := fun record : Written => record.path.isKey = true) fun t =>
    known.not.mpr (Record.IsEntry.noText t)]
  simp only [known]

theorem submissions_ok :
    (∃ submissions, (Json.obj members).readList "previousSubmissions" Submission.ofJson =
      .ok submissions) ↔
      Json.Fits members "previousSubmissions" (Json.IsListOf Submission.IsWritten) := by
  have noText (t : Text) : ¬ Submission.IsWritten (.str t) := by rintro ⟨⟩
  rw [Json.readList_ok fun t => Submission.ofJson_ok.not.mpr (noText t)]
  simp only [Submission.ofJson_ok]

theorem ofJson_readList (value : Json) : ofJson value disk = (do
    let records ← value.readList "files" recordOfJson
    let store ← Store.ofWritten records (← value.memberOr "currentFile" .null)
    let expansion ← expansionOfJson (← value.memberOr "folderExpansionState" (.obj []))
    let settings ← Settings.ofJson (← value.memberOr "userSettings" (.obj []))
    let submissions ← value.readList "previousSubmissions" Submission.ofJson
    pure ⟨store, expansion, settings, submissions.take maxSubmissions, disk⟩) := by
  simp only [ofJson, Json.readList, bind_assoc]

/-- A value is read if it has the shape of a workspace, and only then. -/
theorem ofJson_ok : (∃ ws, ofJson value disk = .ok ws) ↔
    ∃ members, value = .obj members ∧ IsWritten members := by
  rw [ofJson_readList]
  constructor
  · rintro ⟨ws, read⟩
    obtain ⟨records, listed, read⟩ := Outcome.bind_ok.mp read
    obtain ⟨current, asked, read⟩ := Outcome.bind_ok.mp read
    obtain ⟨store, held, read⟩ := Outcome.bind_ok.mp read
    obtain ⟨table, opened, read⟩ := Outcome.bind_ok.mp read
    obtain ⟨expansion, expanded, read⟩ := Outcome.bind_ok.mp read
    obtain ⟨chosen, choice, read⟩ := Outcome.bind_ok.mp read
    obtain ⟨settings, chose, read⟩ := Outcome.bind_ok.mp read
    obtain ⟨submissions, submitted, _⟩ := Outcome.bind_ok.mp read
    obtain ⟨members, rfl⟩ := Json.memberOr_ok asked
    obtain ⟨keys, key⟩ := Store.ofWritten_ok.mp ⟨store, held⟩
    exact ⟨members, rfl, {
      files := records_ok.mp ⟨records, listed, keys⟩
      current := current_ok.mp ⟨current, asked, key⟩
      expansion := table_ok.mp ⟨table, opened, expansion, expanded⟩
      settings := chosen_ok.mp ⟨chosen, choice, settings, chose⟩
      submissions := submissions_ok.mp ⟨submissions, submitted⟩ }⟩
  · rintro ⟨members, rfl, written⟩
    obtain ⟨records, listed, keys⟩ := records_ok.mpr written.files
    obtain ⟨current, asked, key⟩ := current_ok.mpr written.current
    obtain ⟨store, held⟩ := Store.ofWritten_ok.mpr ⟨keys, key⟩
    obtain ⟨table, opened, expansion, expanded⟩ := table_ok.mpr written.expansion
    obtain ⟨chosen, choice, settings, chose⟩ := chosen_ok.mpr written.settings
    obtain ⟨submissions, submitted⟩ := submissions_ok.mpr written.submissions
    simp only [listed, asked, held, opened, expanded, choice, chose, submitted, Outcome.ok_bind]
    exact ⟨_, rfl⟩

theorem load_ok {limit : Nat} {content : Text} : (∃ ws, load limit (some content) = .ok ws) ↔
    Json.read limit content = .error .malformed ∨
      ∃ members, Json.read limit content = .ok (.obj members) ∧ IsWritten members := by
  simp only [load]
  cases read : Json.read limit content with
  | ok value => simp [ofJson_ok]
  | error cause => cases cause <;> simp

theorem fromUTF8?_eq_some {bytes : ByteArray} {content : String} :
    String.fromUTF8? bytes = some content ↔ bytes = content.toUTF8 := by
  rw [String.fromUTF8?]
  constructor
  · intro read
    split at read
    · cases read
      rfl
    · contradiction
  · rintro rfl
    exact dif_pos content.isValidUTF8

theorem loadBytes_toUTF8 (limit : Nat) (content : String) :
    loadBytes limit content.toUTF8 = load limit (some content) := by
  rw [loadBytes, fromUTF8?_eq_some.mpr rfl]

/-- A file is opened exactly if its bytes are UTF-8 and hold either no JSON or an object of the shape of
a written workspace; in the first case the workspace is empty. -/
theorem loadBytes_ok_iff (limit : Nat) (bytes : ByteArray) :
    ((∃ ws, loadBytes limit bytes = .ok ws) ↔ ∃ content : String, bytes = content.toUTF8 ∧
      (Json.read limit content = .error .malformed ∨
        ∃ members, Json.read limit content = .ok (.obj members) ∧ IsWritten members)) ∧
      ∀ content : String, bytes = content.toUTF8 →
        Json.read limit content = .error .malformed →
        loadBytes limit bytes = .ok (empty (.holds content)) := by
  refine ⟨⟨?_, ?_⟩, ?_⟩
  · rintro ⟨ws, opened⟩
    cases decoded : String.fromUTF8? bytes with
    | none =>
      rw [loadBytes, decoded] at opened
      contradiction
    | some content =>
      cases fromUTF8?_eq_some.mp decoded
      exact ⟨content, rfl, load_ok.mp ⟨ws, loadBytes_toUTF8 limit content ▸ opened⟩⟩
  · rintro ⟨content, rfl, readable⟩
    rw [loadBytes_toUTF8]
    exact load_ok.mpr readable
  · rintro content rfl malformed
    rw [loadBytes_toUTF8]
    simp only [load, malformed]

theorem loadBytes_ok_iff_record :
    (∃ ws, loadBytes 100 "\x7b\"files\":[[\"\",\x7b\"path\":\"a.md\"\x7d]]\x7d".toUTF8 = .ok ws) ∧
      loadBytes 100 "[1".toUTF8 = .ok (empty (.holds "[1")) := by
  have record : Record.IsWritten [("path", .str "a.md")] (.str "a.md") := ⟨rfl, Or.inl rfl⟩
  have read : Json.read 100 "\x7b\"files\":[[\"\",\x7b\"path\":\"a.md\"\x7d]]\x7d" =
      .ok (.obj [("files", .arr [.arr [.str [], .obj [("path", .str "a.md")]]])]) := by cbv
  refine ⟨(loadBytes_ok_iff 100 _).1.mpr ⟨_, rfl, Or.inr ⟨_, read, ?_⟩⟩,
    (loadBytes_ok_iff 100 _).2 "[1" rfl rfl⟩
  constructor
  · rintro _ ⟨⟩
    exact .list (List.forall_mem_singleton.mpr (.pair record rfl))
  all_goals
    rintro _ ⟨⟩

/-- A list is no workspace, and a byte alone need not be a character. -/
theorem list_not_opened : loadBytes 100 "[]".toUTF8 = .error .notAnObject ∧
    loadBytes 100 ⟨#[0xff]⟩ = .error .encoding :=
  ⟨rfl, rfl⟩

end Workspace
end LabEditor
