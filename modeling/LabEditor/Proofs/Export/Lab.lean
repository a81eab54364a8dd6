import LabEditor.Proofs.Conversion
import LabEditor.Proofs.Export.Entry
import LabEditor.Proofs.Store.Tree

/-! The files and folders of a lab as they leave the editor. Where no file lies above another record
they agree with one another, so that a directory and an archive can hold all of them. -/
namespace LabEditor

/-- What stands for a text in an archive, or for a folder in place of one. -/
def Archived.of (file : Text × Option Text) : Archived :=
  match file.2 with
  | none => ⟨file.1 ++ (['/'] : Text), []⟩
  | some t => ⟨file.1, t⟩

namespace Export

open Record (Written)

variable {medium : Medium} {auto : Bool} {path t out : Text} {record : Record} {entry : Text × Record}
  {file other : Text × Option Text} {files : List (Text × Option Text)} {place : List Text}
  {item thing : Item} {directory : Directory}

/-- Files and folders, none of them twice, that agree on what stands at a place. -/
structure Coherent (files : List (Text × Option Text)) : Prop where
  named : ∀ file ∈ files, Named file.1
  distinct : (files.map Prod.fst).Nodup
  apart : ∀ file ∈ files, file.2.isSome = true → ∀ other ∈ files, Path.isAncestor file.1 other.1 = false

namespace Coherent

theorem same (coherent : Coherent files) (left : file ∈ files) (right : other ∈ files)
    (same : file.1 = other.1) : file = other :=
  List.inj_on_of_nodup_map coherent.distinct left right same

/-- Where a file of the lab lies above, it is a folder. -/
theorem folder_above (coherent : Coherent files) (upper : file ∈ files) (lower : other ∈ files)
    (above : Path.isAncestor file.1 other.1 = true) : itemOf file.2 = .folder := by
  cases content : file.2 with
  | none => rfl
  | some t =>
    have outside := coherent.apart file upper (by rw [content]; rfl) other lower
    rw [above] at outside
    contradiction

theorem agree (coherent : Coherent files) (left : file ∈ files) (right : other ∈ files)
    (puts : Puts file place item) (others : Puts other place thing) : thing = item := by
  obtain ⟨path, rfl, here⟩ := puts
  obtain ⟨way, same, there⟩ := others
  have first := (coherent.named file left).place.canonical
  have second := (coherent.named other right).place.canonical
  have known : Path.Canonical path := by
    rcases here with ⟨above, _⟩ | ⟨rfl, _⟩
    · exact ((Path.isAncestor_iff first).mp above).1
    · exact first
  have known' : Path.Canonical way := by
    rcases there with ⟨above, _⟩ | ⟨rfl, _⟩
    · exact ((Path.isAncestor_iff second).mp above).1
    · exact second
  cases Path.canonical_unique known known' same
  rcases here with ⟨above, rfl⟩ | ⟨own, rfl⟩ <;> rcases there with ⟨above', rfl⟩ | ⟨own', rfl⟩
  · rfl
  · exact coherent.folder_above right left (own' ▸ above)
  · exact (coherent.folder_above left right (own ▸ above')).symm
  · rw [coherent.same left right (own.symm.trans own')]

/-- All of it is written into a new directory, and nothing else. -/
theorem written (coherent : Coherent files) (encodes : Encodes files)
    (portable : ∀ file ∈ files, Portable medium file.1) :
    ∃ directory, (writeEntries medium (files.map Entry.of)).on [] =
        (.ok (files.countP (·.2.isSome)), directory) ∧
      Added [] directory fun place item => ∃ file ∈ files, Puts file place item := by
  refine writeEntries_on portable encodes ?_ ?_
  · intro file left other right place item thing puts others
    exact coherent.agree left right puts others
  · intro file member place item puts other there
    exact absurd there List.not_mem_nil

end Coherent

theorem nameOf_self (noNull : ('\x00' : CodePoint) ∉ path) : Archived.nameOf path = path := by
  refine List.takeWhile_eq_self_iff.mpr fun c member => ?_
  rw [bne_iff_ne]
  rintro rfl
  exact noNull member

/-- An archive has a place for a member of a name. -/
structure Fits (name : Text) : Prop where
  encodable : name.isEncodable = true
  size : Text.utf8Size name ≤ Archived.maxNameSize

instance : DecidablePred Fits := fun name =>
  decidable_of_iff (name.isEncodable = true ∧ Text.utf8Size name ≤ Archived.maxNameSize)
    ⟨fun fits => ⟨fits.1, fits.2⟩, fun fits => ⟨fits.encodable, fits.size⟩⟩

theorem memberName_of (own : Named file.1) :
    Archived.memberName file.1 file.2.isNone = (Archived.of file).name := by
  obtain ⟨path, content?⟩ := file
  have place : Path.IsPlace path := own.place
  cases content? with
  | none =>
    obtain ⟨front, c, rfl⟩ := (List.eq_nil_or_concat path).resolve_left place.some
    rw [List.concat_eq_append] at *
    have inside : (c == '/') = false := by
      rw [beq_eq_false_iff_ne]
      rintro rfl
      exact place.inner.2 rfl
    have kept : Text.dropEndWhile (· == '/') (front ++ [c]) = front ++ [c] :=
      Text.dropEndWhile_self inside
    have slashed : ('\x00' : CodePoint) ∉ front ++ [c] ++ (['/'] : Text) := by
      rw [List.mem_append, not_or]
      exact ⟨own.noNull, by decide⟩
    rw [Archived.memberName, Option.isNone_none, if_pos rfl, kept, nameOf_self slashed, Archived.of]
  | some t => exact nameOf_self own.noNull

theorem checkName_eq_ok {name : Text} : Archived.checkName name = .ok () ↔ Fits name := by
  rw [Archived.checkName]
  constructor
  · intro checked
    split at checked
    · contradiction
    · rename_i encodable
      split at checked
      · contradiction
      · rename_i size
        exact ⟨by simpa using encodable, Nat.le_of_not_lt size⟩
  · intro fits
    rw [fits.encodable, if_neg (by decide), if_neg (Nat.not_lt.mpr fits.size)]

/-- An entry is packed just if it can be encoded and an archive has a place for it. -/
theorem ofEntry_eq_ok {member : Archived} (own : Named file.1) :
    Archived.ofEntry (Entry.of file) = .ok member ↔
      member = .of file ∧ member.content.isEncodable = true ∧ Fits member.name := by
  have name := memberName_of own
  have filled : (Archived.of file).name ≠ [] := by
    obtain ⟨path, content?⟩ := file
    have some : path ≠ [] := own.place.some
    cases content? <;> simp [Archived.of, some]
  have packed : Archived.ofEntry (Entry.of file) = if (Archived.of file).content.isEncodable then
      (Archived.checkName (Archived.of file).name).map fun _ => .of file else .error .notEncodable := by
    obtain ⟨path, content?⟩ := file
    cases content? with
    | none =>
      simp only [Option.isNone_none] at name
      simp [Archived.ofEntry, Entry.of, Json.ofText?, Json.text?, Json.isNull, name, filled]
      rfl
    | some t =>
      have content : (Archived.of (path, some t)).content = t := rfl
      simp only [Option.isNone_some] at name
      cases encodable : t.isEncodable <;> simp [Archived.ofEntry, Entry.of, Json.ofText?, Json.text?,
        Json.isNull, name, filled, content, encodable]
      rfl
  rw [packed]
  constructor
  · intro done
    split at done
    · rename_i content
      obtain ⟨_, checked, rfl⟩ := Outcome.map_eq_ok.mp done
      exact ⟨rfl, content, checkName_eq_ok.mp checked⟩
    · contradiction
  · rintro ⟨rfl, content, fits⟩
    rw [if_pos content, checkName_eq_ok.mpr fits]
    rfl

/-- The contents of an archive can be encoded if the texts of the files can. -/
theorem encodes_iff : Encodes files ↔
    ∀ member ∈ files.map Archived.of, member.content.isEncodable = true := by
  simp only [Encodes, List.forall_mem_map]
  refine forall₂_congr fun file _ => ?_
  obtain ⟨path, content?⟩ := file
  cases content? with
  | none => exact ⟨fun _ => rfl, fun _ t none => absurd none (by simp)⟩
  | some t =>
    constructor
    · exact fun each => each t rfl
    · intro encodable u same
      cases Option.mem_some_iff.mp same
      exact encodable

/-- A name that ends in a slash is that of a folder. -/
theorem name_of_injective (left : Path.IsPlace file.1) (right : Path.IsPlace other.1)
    (same : (Archived.of file).name = (Archived.of other).name) : file.1 = other.1 := by
  obtain ⟨path, content?⟩ := file
  obtain ⟨key, other?⟩ := other
  cases content? with
  | none =>
    cases other? with
    | none => exact List.append_cancel_right same
    | some t =>
      have ends : path ++ (['/'] : Text) = key := same
      exact absurd rfl (Path.IsPlace.inner (ends ▸ right)).2
  | some t =>
    cases other? with
    | none =>
      have ends : path = key ++ (['/'] : Text) := same
      exact absurd rfl (Path.IsPlace.inner (ends ▸ left)).2
    | some u => exact same

/-- Each file and folder has a name of its own in an archive. -/
theorem Coherent.nodup_names (coherent : Coherent files) :
    ((files.map Archived.of).map Archived.name).Nodup := by
  rw [List.map_map]
  refine List.Nodup.map_on (fun file left other right same => ?_) (List.Nodup.of_map _ coherent.distinct)
  exact coherent.same left right (name_of_injective (coherent.named file left).place
    (coherent.named other right).place same)

/-- All of it is packed, or nothing, if an archive has no place for some of it. -/
theorem Coherent.archive_eq_ok (coherent : Coherent files) {members : List Archived} :
    archive (files.map Entry.of) = .ok members ↔
      members = files.map Archived.of ∧ Encodes files ∧ ∀ member ∈ members, Fits member.name := by
  have packed : archive (files.map Entry.of) = .ok members ↔ members = files.map Archived.of ∧
      ∀ member ∈ members, member.content.isEncodable = true ∧ Fits member.name := by
    rw [archive, List.mapM_map]
    exact Outcome.mapM_eq_ok_map_iff fun file known _ => ofEntry_eq_ok (coherent.named file known)
  rw [packed, encodes_iff]
  refine and_congr_right ?_
  rintro rfl
  exact forall₂_and

/-- What becomes of a record: a folder has no content, and a text is converted. -/
inductive Leaves (auto : Bool) : Text × Record → Text × Option Text → Prop where
  | folder {path : Text} {record : Record} (kind : record.isDirectory = true) :
    Leaves auto (path, record) (path, none)
  | file {path t out : Text} {record : Record} (kind : record.isDirectory = false)
    (content : record.content = .str t) (converted : convertFile path t auto = .ok out) :
    Leaves auto (path, record) (path, some out)

namespace Leaves

theorem key (leaves : Leaves auto entry file) : file.1 = entry.1 := by
  cases leaves <;> rfl

theorem kind (leaves : Leaves auto entry file) : file.2.isSome = !entry.2.isDirectory := by
  cases leaves with
  | folder kind => rw [kind]; rfl
  | file kind content converted => rw [kind]; rfl

theorem unique (first : Leaves auto entry file) (second : Leaves auto entry other) : file = other := by
  cases first with
  | folder kind =>
    cases second with
    | folder _ => rfl
    | file other _ _ => exact absurd (kind.symm.trans other) (by decide)
  | file kind content converted =>
    cases second with
    | folder other => exact absurd (other.symm.trans kind) (by decide)
    | file _ content' converted' =>
      cases content.symm.trans content'
      cases converted.symm.trans converted'
      rfl

theorem ofWritten (leaves : Leaves auto (path, record) file) (own : record.path = path) :
    Entry.ofWritten record.written true auto = .ok (Entry.of file) := by
  subst own
  cases leaves with
  | folder kind => simp only [Entry.ofWritten, Written.record?, Record.written, Entry.ofRecord, kind]; rfl
  | file kind content converted =>
    simp only [Entry.ofWritten, Written.record?, Record.written, Entry.ofRecord, kind, content,
      convertContent_text, converted]
    rfl

end Leaves

/-- What leaves the editor for each record, in order. -/
theorem exists_leaves {entries : Table Record}
    (each : ∀ entry ∈ entries, ∃ file, Leaves auto entry file) :
    ∃ files, List.Forall₂ (Leaves auto) entries files := by
  induction entries with
  | nil => exact ⟨[], .nil⟩
  | cons entry entries ih =>
    obtain ⟨first, rest⟩ := List.forall_mem_cons.mp each
    obtain ⟨file, here⟩ := first
    obtain ⟨files, there⟩ := ih rest
    exact ⟨file :: files, .cons here there⟩

section
variable {entries : Table Record}

theorem mapM_ofWritten (leave : List.Forall₂ (Leaves auto) entries files)
    (own : ∀ entry ∈ entries, entry.2.path = entry.1) :
    entries.mapM (fun entry => Entry.ofWritten entry.2.written true auto) = .ok (files.map Entry.of) := by
  induction leave with
  | nil => rfl
  | cons here _ ih =>
    obtain ⟨first, rest⟩ := List.forall_mem_cons.mp own
    rw [List.mapM_cons, here.ofWritten first, ih rest]
    rfl

theorem keys_of_leaves (leave : List.Forall₂ (Leaves auto) entries files) :
    files.map Prod.fst = entries.keys := by
  induction leave with
  | nil => rfl
  | cons here _ ih => exact congrArg₂ List.cons here.key ih

theorem countP_of_leaves (leave : List.Forall₂ (Leaves auto) entries files) :
    files.countP (·.2.isSome) = entries.countP fun entry => !entry.2.isDirectory := by
  induction leave with
  | nil => rfl
  | cons here _ ih => rw [List.countP_cons, List.countP_cons, ih, here.kind]

end

/-- A directory that holds just the folders and the converted files of a store, each once. -/
structure Shows (store : Store) (auto : Bool) (directory : Directory) : Prop where
  folders : ∀ place, (place, .folder) ∈ directory ↔
    ∃ path, place = Path.segments path ∧ Store.isFolder store.files path = true
  files : ∀ place t, (place, .file t) ∈ directory ↔
    ∃ path record, place = Path.segments path ∧ (path, record) ∈ store.files ∧
      Leaves auto (path, record) (path, some t)
  alone : ∀ place members, (place, .archive members) ∉ directory
  distinct : (directory.map Prod.fst).Nodup

section
variable {store : Store}

theorem record_of_leaves (leave : List.Forall₂ (Leaves auto) store.sorted files) (member : file ∈ files) :
    ∃ record, (file.1, record) ∈ store.files ∧ Leaves auto (file.1, record) file := by
  refine forall_of_forall₂ leave.flip (P := fun file => ∃ record, (file.1, record) ∈ store.files ∧
    Leaves auto (file.1, record) file) ?_ file member
  rintro file ⟨path, record⟩ inside leaves
  have same : file.1 = path := leaves.key
  exact ⟨record, same ▸ (Store.perm_sorted store).mem_iff.mp inside, same ▸ leaves⟩

theorem leaves_of_record (leave : List.Forall₂ (Leaves auto) store.sorted files)
    (there : (path, record) ∈ store.files) : ∃ file ∈ files, Leaves auto (path, record) file :=
  forall_of_forall₂ leave (P := fun entry => ∃ file ∈ files, Leaves auto entry file)
    (fun _ file known leaves => ⟨file, known, leaves⟩) _ ((Store.perm_sorted store).mem_iff.mpr there)

theorem coherent_of_leaves (sound : store.Sound) (tree : Store.IsTree store.files)
    (named : ∀ key ∈ store.files.keys, Named key)
    (leave : List.Forall₂ (Leaves auto) store.sorted files) : Coherent files := by
  constructor
  · intro file member
    obtain ⟨record, there, _⟩ := record_of_leaves leave member
    exact named file.1 (Table.mem_keys.mpr ⟨record, there⟩)
  · rw [keys_of_leaves leave]
    exact Store.nodup_sorted sound.distinct
  · intro file left kind other right
    obtain ⟨record, there, leaves⟩ := record_of_leaves leave left
    obtain ⟨lower, below, _⟩ := record_of_leaves leave right
    have text : record.isDirectory = false := by
      simpa [kind] using leaves.kind.symm
    refine tree.apart (Store.isFile_iff.mpr ⟨record, ?_, text⟩) (Table.mem_keys.mpr ⟨lower, below⟩)
    exact Table.get?_of_mem sound.distinct there

theorem shows_of_added (sound : store.Sound) (leave : List.Forall₂ (Leaves auto) store.sorted files)
    (added : Added [] directory fun place item => ∃ file ∈ files, Puts file place item) :
    Shows store auto directory := by
  have holds : ∀ place item, (place, item) ∈ directory ↔ ∃ file ∈ files, Puts file place item := by
    intro place item
    rw [added.mem, or_iff_right List.not_mem_nil]
  constructor
  · intro place
    rw [holds]
    constructor
    · rintro ⟨⟨key, content?⟩, member, path, rfl, puts⟩
      obtain ⟨record, there, leaves⟩ := record_of_leaves leave member
      refine ⟨path, rfl, Store.isFolder_iff.mpr ?_⟩
      rcases puts with ⟨above, _⟩ | ⟨rfl, kind⟩
      · exact Or.inl ⟨key, Table.mem_keys.mpr ⟨record, there⟩, above⟩
      · cases leaves with
        | folder bare => exact Or.inr ⟨record, Table.get?_of_mem sound.distinct there, bare⟩
        | file _ _ _ => contradiction
    · rintro ⟨path, rfl, folder⟩
      rcases Store.isFolder_iff.mp folder with ⟨key, known, above⟩ | ⟨record, found, kind⟩
      · obtain ⟨record, there⟩ := Table.mem_keys.mp known
        obtain ⟨file, member, leaves⟩ := leaves_of_record leave there
        exact ⟨file, member, path, rfl, Or.inl ⟨leaves.key ▸ above, rfl⟩⟩
      · obtain ⟨file, member, leaves⟩ := leaves_of_record leave (Table.mem_of_get? found)
        cases leaves.unique (.folder kind)
        exact ⟨_, member, path, rfl, Or.inr ⟨rfl, rfl⟩⟩
  · intro place t
    rw [holds]
    constructor
    · rintro ⟨⟨key, content?⟩, member, path, rfl, ⟨_, kind⟩ | ⟨rfl, kind⟩⟩
      · contradiction
      · obtain ⟨record, there, leaves⟩ := record_of_leaves leave member
        cases leaves with
        | folder _ => contradiction
        | file text content converted =>
          cases kind
          exact ⟨path, record, rfl, there, .file text content converted⟩
    · rintro ⟨path, record, rfl, there, leaves⟩
      obtain ⟨file, member, others⟩ := leaves_of_record leave there
      cases leaves.unique others
      exact ⟨_, member, path, rfl, Or.inr ⟨rfl, rfl⟩⟩
  · rintro place members there
    obtain ⟨⟨key, content?⟩, _, path, _, ⟨_, kind⟩ | ⟨_, kind⟩⟩ := (holds _ _).mp there
    · contradiction
    · cases content? <;> contradiction
  · exact added.distinct List.nodup_nil

end

end Export
end LabEditor
