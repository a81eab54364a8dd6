import LabEditor.Proofs.Lab.Scaffold
import LabEditor.Proofs.Order
import LabEditor.Proofs.Store.Calls

/-! What holds of a store whatever was done to it, and that the calls which leave paths as they are
keep it. Restoring needs it of the store that was listed too. -/
namespace LabEditor

open Record (Written)

/-- A file may be without a type, or have one that a lab may hold. -/
def Path.Allowed (path : Text) : Prop :=
  extension path = [] ∨ extension path ∈ allowedExtensions

/-- What the record at a path must be. -/
structure Record.SoundAt (path : Text) (record : Record) : Prop where
  place : Path.IsPlace path
  own : record.path = path
  name : record.name = .str (Path.basename path)
  allowed : record.isDirectory = false → Path.Allowed path
  bare : record.isDirectory = true → record.content = .str []

structure Store.Sound (store : Store) : Prop where
  distinct : store.files.keys.Nodup
  records : ∀ entry ∈ store.files, Record.SoundAt entry.1 entry.2
  current : ∀ path, store.currentFile = some path → Store.isFile store.files path = true
  plain : store.strays = .none

namespace Store
variable {store next past : Store} {record : Record} {path : Text}

theorem isFile_iff {files : Table Record} : isFile files path = true ↔
    ∃ record, files.get? path = some record ∧ record.isDirectory = false := by
  rw [isFile, Option.any_eq_true]
  simp only [Bool.not_eq_true']

theorem isFile_member {files : Table Record} (there : isFile files path = true) : path ∈ files.keys := by
  obtain ⟨record, found, _⟩ := isFile_iff.mp there
  exact Table.mem_keys_of_get? found

/-- The records with their paths, in the order of the paths. -/
def sorted (store : Store) : Table Record :=
  Order.sortBy (fun a b => Text.le a.1 b.1) store.files

theorem records_sorted (store : Store) : store.records = store.sorted.map (·.2) := rfl

theorem perm_sorted (store : Store) : store.sorted.Perm store.files :=
  Order.perm_sortBy _ store.files

theorem mem_records : record ∈ store.records ↔ ∃ key, (key, record) ∈ store.files := by
  simp only [records_sorted, List.mem_map, (perm_sorted store).mem_iff, Prod.exists,
    exists_eq_right]

theorem pairwise_sorted (store : Store) :
    store.sorted.Pairwise fun a b => Text.le a.1 b.1 = true :=
  Order.pairwise_sortBy (fun a b => Text.le_total a.1 b.1)
    (fun a b c => Text.le_trans a.1 b.1 c.1) store.files

theorem nodup_sorted (distinct : store.files.keys.Nodup) : store.sorted.keys.Nodup :=
  ((perm_sorted store).map Prod.fst).nodup_iff.mpr distinct

theorem get?_sorted (distinct : store.files.keys.Nodup) (path : Text) :
    store.sorted.get? path = store.files.get? path := by
  apply Option.ext
  intro record
  rw [Table.get?_iff (nodup_sorted distinct), Table.get?_iff distinct, (perm_sorted store).mem_iff]

/-- Records under their own paths make up the table that they were taken from. -/
theorem tableOf_records (distinct : store.files.keys.Nodup)
    (paths : ∀ entry ∈ store.files, entry.2.path = entry.1) : tableOf store.records = store.sorted := by
  have same : store.records.map (fun record => (record.path, record)) = store.sorted := by
    have entry_same : ∀ entry ∈ store.sorted, (entry.2.path, entry.2) = entry := fun entry member =>
      Prod.ext (paths entry ((perm_sorted store).mem_iff.mp member)) rfl
    rw [records_sorted, List.map_map]
    exact (List.map_congr_left entry_same).trans (List.map_id _)
  rw [tableOf, same, Table.ofEntries_distinct (nodup_sorted distinct)]

theorem mem_keys_sorted (store : Store) : key ∈ store.sorted.keys ↔ key ∈ store.files.keys :=
  ((perm_sorted store).map Prod.fst).mem_iff

theorem listing_plain (plain : store.strays = .none) :
    store.listing = store.records.map Record.written := by
  rw [listing, plain]
  rfl

theorem haveOrder_texts (texts : List Text) : Json.haveOrder (texts.map .str) = true := by
  induction texts with
  | nil => rfl
  | cons t texts ih =>
    rw [List.map_cons, Json.haveOrder, ih, Bool.and_true, List.all_map, List.all_eq_true]
    exact fun _ _ => rfl

/-- Paths that are texts have an order. -/
theorem checkOrder_plain (plain : store.strays = .none) : store.checkOrder = .ok () := by
  have keys : store.keys = store.paths.map .str := by
    rw [Store.keys, plain]
    rfl
  rw [checkOrder, keys, if_pos (haveOrder_texts _)]

theorem checkKeys_written (records : List Record) :
    checkKeys ((records.map Record.written).map Written.path) = .ok () := by
  rw [checkKeys, if_pos]
  simp only [List.map_map, List.all_map, List.all_eq_true]
  exact fun _ _ => rfl

theorem entriesOf_written (records : List Record) : Strays.entriesOf (records.map Record.written) = [] := by
  have none : (records.map Record.written).filter (fun record => record.path.text?.isNone) = [] := by
    simp only [List.filter_eq_nil_iff, List.mem_map, forall_exists_index, and_imp]
    rintro _ record _ rfl
    exact Bool.false_ne_true
  rw [Strays.entriesOf, none]
  rfl

theorem record?_written (records : List Record) :
    (records.map Record.written).filterMap Written.record? = records := by
  rw [List.filterMap_map]
  exact List.filterMap_some

/-- Without strays, to put back what was listed is to put back the records. -/
theorem replaceWritten_listing (here : store.strays = .none) (there : past.strays = .none) :
    store.replaceWritten past.listing = .ok (store.replaceAll past.records) := by
  rw [replaceWritten, listing_plain there, checkKeys_written, Outcome.ok_bind, record?_written]
  simp only [Strays.replaceAll, entriesOf_written, here]
  rfl

namespace Sound

theorem paths (sound : store.Sound) : ∀ entry ∈ store.files, entry.2.path = entry.1 :=
  fun entry member => (sound.records entry member).own

theorem places (sound : store.Sound) : ∀ key ∈ store.files.keys, Path.IsPlace key := by
  intro key member
  obtain ⟨record, found⟩ := Table.mem_keys.mp member
  exact (sound.records _ found).place

theorem found (sound : store.Sound) (found : store.files.get? path = some record) :
    Record.SoundAt path record :=
  sound.records _ (Table.mem_of_get? found)

theorem empty : Store.empty.Sound where
  distinct := List.nodup_nil
  records := by simp [Store.empty]
  current := by simp [Store.empty]
  plain := rfl

theorem changed (sound : store.Sound) : store.changed.Sound :=
  ⟨sound.distinct, sound.records, sound.current, sound.plain⟩

theorem put (sound : store.Sound) (fits : Record.SoundAt path record)
    (stays : store.currentFile = some path → record.isDirectory = false) :
    { store with files := store.files.put path record }.Sound := by
  refine ⟨Table.nodup_put sound.distinct, ?_, ?_, sound.plain⟩
  · intro entry member
    rcases Table.mem_put member with rfl | before
    · exact fits
    · exact sound.records entry before
  · intro key here
    rw [isFile_iff, Table.get?_put]
    by_cases same : key = path
    · exact ⟨record, if_pos same, stays (same ▸ here)⟩
    · rw [if_neg same]
      exact isFile_iff.mp (sound.current key here)

theorem create (sound : store.Sound) (made : store.create typed isDirectory content = .ok (next, record)) :
    next.Sound := by
  obtain ⟨named, absent, rfl, rfl⟩ := create_ok made
  obtain ⟨⟨some, _⟩, _, kind⟩ := checkName_ok.mp named
  have place := Path.place_normalize some
  have fits : Record.SoundAt (Path.normalize typed) (fresh typed isDirectory content) := by
    refine ⟨place, rfl, rfl, fun file => ?_, fun folder => ?_⟩
    · rw [Path.Allowed, ← Path.extension_basename place.canonical place.some]
      exact kind file
    · exact if_pos folder
  refine (sound.put fits fun here => absurd ?_ absent).changed
  obtain ⟨other, found, _⟩ := isFile_iff.mp (sound.current _ here)
  exact Table.mem_keys_of_get? found

theorem write (sound : store.Sound) (written : store.write path content = .ok next) : next.Sound := by
  obtain ⟨record, found, file, rfl⟩ := write_ok written
  have before := sound.found found
  have fits : Record.SoundAt path { record with content } :=
    { before with bare := fun folder => absurd (file.symm.trans folder) Bool.false_ne_true }
  exact (sound.put fits fun _ => file).changed

theorem openFile (sound : store.Sound) (opened : store.openFile path = .ok (next, record)) :
    next.Sound := by
  obtain ⟨found, file, rfl⟩ := openFile_ok opened
  refine changed ⟨sound.distinct, sound.records, fun key same => ?_, ?_⟩
  · cases same
    exact isFile_iff.mpr ⟨record, found, file⟩
  · simp only [sound.plain]
    rfl

theorem close (sound : store.Sound) : store.close.Sound := by
  rw [Store.close]
  split
  · exact sound
  · refine changed ⟨sound.distinct, sound.records, fun key same => by contradiction, ?_⟩
    simp only [sound.plain]
    rfl

theorem delete (sound : store.Sound) (deleted : store.delete path = .ok (next, removed)) :
    next.Sound := by
  obtain ⟨_, _, rfl, result⟩ := delete_ok deleted
  have files : next.files = store.files.keep fun key => !Path.isWithin key path :=
    congrArg Store.files result
  constructor
  · rw [files]
    exact Table.nodup_keep sound.distinct
  · rw [files]
    exact fun entry member => sound.records entry (Table.mem_keep.mp member).1
  · intro key here
    rw [result] at here
    obtain ⟨before, stays⟩ := Option.filter_eq_some_iff.mp here
    obtain ⟨record, found, file⟩ := isFile_iff.mp (sound.current key before)
    have member : key ∈ store.files.keys := Table.mem_keys_of_get? found
    have outside : (!Path.isWithin key path) = true := by
      simpa [Order.mem_sortBy, member] using stays
    rw [files]
    exact isFile_iff.mpr ⟨record, (Table.get?_keep sound.distinct).mpr ⟨found, outside⟩, file⟩
  · rw [result]
    exact sound.plain

theorem replaceAll_files (listed : past.Sound) (store : Store) :
    (store.replaceAll past.records).files = past.sorted :=
  tableOf_records listed.distinct listed.paths

theorem replaceAll (listed : past.Sound) (store : Store) : (store.replaceAll past.records).Sound := by
  have table := tableOf_records listed.distinct listed.paths
  refine changed ⟨?_, ?_, ?_, rfl⟩
  · simp only [table]
    exact nodup_sorted listed.distinct
  · simp only [table]
    exact fun entry member => listed.records entry ((perm_sorted past).mem_iff.mp member)
  · intro key here
    obtain ⟨_, kept⟩ := Option.filter_eq_some_iff.mp here
    exact (Bool.and_eq_true_iff.mp kept).2

theorem scaffold (sound : store.Sound) (title image : Text) : (Lab.scaffold store title image).1.Sound :=
  Lab.scaffold_keeps (fun _ before made => before.create made) sound title image

end Sound
end Store
end LabEditor
