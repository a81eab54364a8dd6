import LabEditor.Proofs.Export.Lab
import LabEditor.Proofs.Workspace.Contents

/-! Exporting a workspace. The contents of a run that brings texts only stay such texts, so that all
of them are converted; a directory and an archive then hold the same lab. -/
namespace LabEditor

open Detection (spanMarks)

/-- A text that holds no mark of a token. -/
def Json.Unmarked : Json → Prop
  | .str t => spanMarks.opening ∉ t
  | _ => False

instance : DecidablePred Json.Unmarked
  | .str t => inferInstanceAs (Decidable (spanMarks.opening ∉ t))
  | .null | .bool _ | .int _ | .float _ | .arr _ | .obj _ => .isFalse id

theorem Json.Unmarked.text {content : Json} (unmarked : content.Unmarked) :
    ∃ t, content = .str t ∧ spanMarks.opening ∉ t := by
  cases content with
  | str t => exact ⟨t, rfl, unmarked⟩
  | _ => exact unmarked.elim

namespace Workspace
variable {ws : Workspace} {files : List (Text × Option Text)}

open Export

/-- Where each content can be converted, each record leaves the editor. -/
theorem exists_leaves_sorted (unmarked : ∀ entry ∈ ws.store.files, entry.2.content.Unmarked)
    (addressable : ∀ entry ∈ ws.store.files, ∀ t ∈ entry.2.content.text?, t.Addressable)
    (auto : Bool) : ∃ files, List.Forall₂ (Leaves auto) ws.store.sorted files := by
  refine exists_leaves fun entry member => ?_
  obtain ⟨path, record⟩ := entry
  have there := (Store.perm_sorted ws.store).mem_iff.mp member
  cases kind : record.isDirectory with
  | true => exact ⟨_, .folder kind⟩
  | false =>
    obtain ⟨t, content, unmarked⟩ := (unmarked _ there).text
    obtain ⟨out, converted⟩ := convertFile_total unmarked (addressable _ there t (by rw [content]; rfl)) path auto
    exact ⟨_, .file kind content converted⟩

theorem entries_of_leaves (sound : ws.store.Sound)
    (leave : List.Forall₂ (Leaves ws.settings.autoDetect) ws.store.sorted files) :
    Entry.ofWorkspace ws true = .ok (files.map Entry.of) := by
  have own : ∀ entry ∈ ws.store.sorted, entry.2.path = entry.1 := fun entry member =>
    sound.paths entry ((Store.perm_sorted ws.store).mem_iff.mp member)
  rw [Entry.ofWorkspace, Store.checkOrder_plain sound.plain, Outcome.ok_bind,
    Store.listing_plain sound.plain, Store.records_sorted, List.mapM_map, List.mapM_map]
  exact mapM_ofWritten leave own

/-- Where the contents can be encoded, so can what becomes of them. -/
theorem encodes_of_leaves (unmarked : ∀ entry ∈ ws.store.files, entry.2.content.Unmarked)
    (addressable : ∀ entry ∈ ws.store.files, ∀ t ∈ entry.2.content.text?, t.Addressable)
    (encodable : ∀ entry ∈ ws.store.files, ∀ t ∈ entry.2.content.text?, t.isEncodable = true)
    (leave : List.Forall₂ (Leaves auto) ws.store.sorted files) : Encodes files := by
  rintro ⟨path, content?⟩ member out rfl
  obtain ⟨record, there, leaves⟩ := record_of_leaves leave member
  cases leaves with
  | file _ text converted =>
    obtain ⟨t, same, free⟩ := (unmarked _ there).text
    obtain rfl := Json.str.inj (same.symm.trans text)
    have known : t ∈ record.content.text? := by rw [text]; rfl
    exact convertFile_encodable free (addressable _ there t known) (encodable _ there t known) converted

/-- A workspace that a run leads to from an empty one, with only texts without marks of tokens in it, no
file above another record and no path with an end inside. What becomes of its contents can be encoded if
they can. It is packed into an archive just if an archive has a place for each member. If a medium takes
the paths, it is written into a new directory just if what is written can be encoded, and what was written
then is the whole lab and lies inside of the directory. -/
theorem export_and_archive_agree (medium : Medium) (disk : Disk) (steps : List Step) :
    let ws := after (empty disk) steps
    let auto := ws.settings.autoDetect
    (∀ entry ∈ ws.store.files, entry.2.content.Unmarked) →
    (∀ entry ∈ ws.store.files, ∀ t ∈ entry.2.content.text?, t.Addressable) →
    Store.IsTree ws.store.files → (∀ key ∈ ws.store.files.keys, ('\x00' : CodePoint) ∉ key) →
    ∃ files,
      List.Forall₂ (Leaves auto) ws.store.sorted files ∧
      (files.map Prod.fst).Pairwise (fun a b => Text.le a b = true) ∧
      Entry.ofWorkspace ws true = .ok (files.map Entry.of) ∧
      ((∀ entry ∈ ws.store.files, ∀ t ∈ entry.2.content.text?, t.isEncodable = true) →
        Encodes files) ∧
      ((files.map Archived.of).map Archived.name).Nodup ∧
      (∀ members, archive (files.map Entry.of) = .ok members ↔
        members = files.map Archived.of ∧ Encodes files ∧ ∀ member ∈ members, Fits member.name) ∧
      ((∀ key ∈ ws.store.files.keys, medium.Takes (Path.segments key)) →
        (∀ key ∈ ws.store.files.keys, key.isEncodable = true) →
        ((∃ written directory,
          (writeEntries medium (files.map Entry.of)).on [] = (.ok written, directory)) ↔ Encodes files) ∧
        (∀ written directory,
          (writeEntries medium (files.map Entry.of)).on [] = (.ok written, directory) →
          written = (ws.store.files.countP fun entry => !entry.2.isDirectory) ∧
            Shows ws.store auto directory) ∧
        ∀ key ∈ ws.store.files.keys, ∀ names, names <+: Place.names key →
          (Place.start key).follow names = .below names) := by
  intro ws auto unmarked addressable tree noNull
  have sound : ws.Sound := (Sound.empty disk).after steps
  have named : ∀ key ∈ ws.store.files.keys, Named key := fun key member =>
    ⟨sound.store.places key member, noNull key member⟩
  obtain ⟨files, leave⟩ := exists_leaves_sorted unmarked addressable auto
  have coherent := coherent_of_leaves sound.store tree named leave
  refine ⟨files, leave, ?_, entries_of_leaves sound.store leave,
    fun encodable => encodes_of_leaves unmarked addressable encodable leave, coherent.nodup_names,
    fun members => coherent.archive_eq_ok, fun takes encodable => ?_⟩
  · rw [keys_of_leaves leave, Table.keys, List.pairwise_map]
    exact Store.pairwise_sorted ws.store
  · have portable : ∀ key ∈ ws.store.files.keys, Portable medium key := fun key member =>
      ⟨named key member, encodable key member, takes key member⟩
    have each : ∀ file ∈ files, Portable medium file.1 := by
      intro file member
      obtain ⟨record, there, _⟩ := record_of_leaves leave member
      exact portable file.1 (Table.mem_keys.mpr ⟨record, there⟩)
    have count : files.countP (·.2.isSome) =
        ws.store.files.countP fun entry => !entry.2.isDirectory := by
      rw [countP_of_leaves leave, (Store.perm_sorted ws.store).countP_eq]
    refine ⟨⟨?_, fun encodes => ?_⟩, fun written directory done => ?_, fun key member names ahead => ?_⟩
    · rintro ⟨written, directory, done⟩
      exact encodes_of_writeEntries done
    · obtain ⟨directory, written, _⟩ := coherent.written encodes each
      exact ⟨_, directory, written⟩
    · obtain ⟨_, same, added⟩ := coherent.written (encodes_of_writeEntries done) each
      cases same.symm.trans done
      exact ⟨count, shows_of_added sound.store leave added⟩
    · rw [(portable key member).start, (portable key member).follow [] ahead, List.nil_append]

theorem export_and_archive_agree_step :
    let steps : List Step := [.call (.apply (.createFolder [] "docs")),
      .call (.apply (.createFile "docs" "a.md" (.str "\x7b\x7bh1\x7d\x7d Title"))),
      .call (.apply (.createFile "step1" "verify.sh" (.str "exit 0\n"))),
      .call (.rename "docs" "notes")]
    let ws := after (empty .absent) steps
    let medium : Medium := ⟨fun name => name.length ≤ 255, fun names => names.length ≤ 16⟩
    (∀ entry ∈ ws.store.files, entry.2.content.Unmarked) ∧ Store.IsTree ws.store.files ∧
      (∀ key ∈ ws.store.files.keys, medium.Takes (Path.segments key)) ∧
      ∃ (files : List (Text × Option Text)) (directory : Directory),
        Entry.ofWorkspace ws true = .ok (files.map Entry.of) ∧
        archive (files.map Entry.of) = .ok (files.map Archived.of) ∧
        (writeEntries medium (files.map Entry.of)).on [] = (.ok 2, directory) ∧
        Shows ws.store ws.settings.autoDetect directory := by
  intro steps ws medium
  have unmarked : ∀ entry ∈ ws.store.files, entry.2.content.Unmarked := by decide
  have tree : Store.IsTree ws.store.files := by decide
  have encodable : ∀ entry ∈ ws.store.files, ∀ t ∈ entry.2.content.text?, t.isEncodable = true := by
    decide
  have short : ∀ key ∈ ws.store.files.keys, (∀ name ∈ Path.segments key, name.length ≤ 255) ∧
      (Path.segments key).length ≤ 16 := by decide
  have takes : ∀ key ∈ ws.store.files.keys, medium.Takes (Path.segments key) := fun key member =>
    ⟨fun name inside => decide_eq_true ((short key member).1 name inside),
      fun front ahead => decide_eq_true (ahead.length_le.trans (short key member).2)⟩
  obtain ⟨files, leave, _, entries, encodes, _, packed, writes⟩ :=
    export_and_archive_agree medium .absent steps unmarked (by decide) tree (by decide)
  have small : ∀ key ∈ ws.store.files.keys, Fits key ∧ Fits (key ++ (['/'] : Text)) := by
    decide +kernel
  have fits : ∀ member ∈ files.map Archived.of, Fits member.name := by
    simp only [List.forall_mem_map]
    intro file member
    obtain ⟨record, there, _⟩ := record_of_leaves leave member
    obtain ⟨plain, slashed⟩ := small file.1 (Table.mem_keys.mpr ⟨record, there⟩)
    rw [Archived.of]
    split
    · exact slashed
    · exact plain
  obtain ⟨written, shows, _⟩ := writes takes (by decide)
  obtain ⟨count, directory, done⟩ := written.mpr (encodes encodable)
  obtain ⟨same, shown⟩ := shows count directory done
  have two : count = 2 := same.trans (by decide)
  exact ⟨unmarked, tree, takes, files, directory, entries,
    (packed _).mpr ⟨rfl, encodes encodable, fits⟩, two ▸ done, shown⟩

/-- A file that holds half of a surrogate pair stops the export, which leaves it behind empty, and the
archive. -/
theorem half_stops_export :
    let steps : List Step := [.call (.onStore (.create "a.sh" false (.str [.half 0])))]
    let ws := after (empty .absent) steps
    let medium : Medium := ⟨fun _ => true, fun _ => true⟩
    (∀ entry ∈ ws.store.files, entry.2.content.Unmarked) ∧
      (∀ entry ∈ ws.store.files, ∀ t ∈ entry.2.content.text?, t.Addressable) ∧
      Store.IsTree ws.store.files ∧ (∀ key ∈ ws.store.files.keys, ('\x00' : CodePoint) ∉ key) ∧
      (∀ key ∈ ws.store.files.keys, medium.Takes (Path.segments key)) ∧
      ∃ entries, Entry.ofWorkspace ws true = .ok entries ∧
        (writeEntries medium entries).on [] =
          (.error .notEncodable, [([("a.sh" : Text)], .file [])]) ∧
        archive entries = .error .notEncodable := by
  intro steps ws medium
  have takes : ∀ key ∈ ws.store.files.keys, medium.Takes (Path.segments key) :=
    fun _ _ => ⟨fun _ _ => rfl, fun _ _ => rfl⟩
  exact ⟨by decide, by decide, by decide, by decide, takes, _, rfl, rfl, rfl⟩

end Workspace
end LabEditor
