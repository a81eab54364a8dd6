import LabEditor.Store.Basic
import LabEditor.Proofs.Outcome
import LabEditor.Proofs.Path.Place
import LabEditor.Proofs.Table

/-! What a call on a store has found and done when it succeeds. -/
namespace LabEditor

theorem checkName_ok : checkName name isDirectory = .ok () ↔
    Path.IsSegment name ∧ Path.isDots name = false ∧
      (isDirectory = false → Path.extension name = [] ∨ Path.extension name ∈ allowedExtensions) := by
  rw [checkName]
  by_cases bad : (name.isEmpty || name.contains Path.separator || Path.isDots name) = true
  · simp only [bad, if_true, reduceCtorEq, false_iff]
    simp only [Bool.or_eq_true, List.isEmpty_iff, List.contains_eq_mem, decide_eq_true_eq] at bad
    rintro ⟨⟨some, free⟩, plain, _⟩
    rcases bad with (none | inside) | dots
    · exact some none
    · exact free inside
    · exact Bool.false_ne_true (plain.symm.trans dots)
  · simp only [bad, if_false, Bool.false_eq_true]
    simp only [Bool.or_eq_true, List.isEmpty_iff, List.contains_eq_mem, decide_eq_true_eq, not_or,
      Bool.not_eq_true] at bad
    obtain ⟨⟨some, free⟩, plain⟩ := bad
    cases isDirectory with
    | true => simp [Path.IsSegment, some, free, plain]
    | false =>
      simp only [Path.IsSegment, ne_eq, some, not_false_eq_true, free, plain, true_and, forall_const,
        Bool.false_eq_true, if_false]
      by_cases known : ((Path.extension name).isEmpty ||
          allowedExtensions.contains (Path.extension name)) = true
      · simp only [known, if_true, true_iff]
        simpa [List.isEmpty_iff] using known
      · simp only [known, Bool.false_eq_true, if_false, reduceCtorEq, false_iff]
        simpa [List.isEmpty_iff] using known

namespace Store
variable {store next : Store} {record : Record} {path old new source folder target : Text}

theorem get_ok : store.get path = .ok record ↔ store.files.get? path = some record := by
  rw [Store.get]
  cases store.files.get? path with
  | none => simp
  | some found => simp

theorem getFile_ok : store.getFile path = .ok record ↔
    store.files.get? path = some record ∧ record.isDirectory = false := by
  rw [getFile, Outcome.bind_ok]
  constructor
  · rintro ⟨found, located, kind⟩
    obtain ⟨file, same⟩ := Outcome.guard_ok.mp kind
    cases same
    exact ⟨get_ok.mp located, by simpa using file⟩
  · rintro ⟨located, file⟩
    exact ⟨record, get_ok.mpr located, by simp [file]⟩

/-- The record that a call to create makes. -/
def fresh (typed : Text) (isDirectory : Bool) (content : Json) : Record :=
  ⟨.str (Path.basename (Path.normalize typed)), Path.normalize typed,
    if isDirectory then .str [] else content, isDirectory⟩

theorem create_ok (made : store.create typed isDirectory content = .ok (next, record)) :
    checkName (Path.basename (Path.normalize typed)) isDirectory = .ok () ∧
      Path.normalize typed ∉ store.files.keys ∧ record = fresh typed isDirectory content ∧
      next = { store with files := store.files.put (Path.normalize typed) record }.changed := by
  obtain ⟨_, named, made⟩ := Outcome.bind_ok.mp made
  obtain ⟨absent, made⟩ := Outcome.guard_ok.mp made
  cases made
  exact ⟨named, fun member => absent (Table.has_iff.mpr member), rfl, rfl⟩

theorem write_ok (written : store.write path content = .ok next) :
    ∃ record, store.files.get? path = some record ∧ record.isDirectory = false ∧
      next = { store with files := store.files.put path { record with content } }.changed := by
  obtain ⟨record, found, written⟩ := Outcome.bind_ok.mp written
  cases written
  exact ⟨record, (getFile_ok.mp found).1, (getFile_ok.mp found).2, rfl⟩

theorem openFile_ok (opened : store.openFile path = .ok (next, record)) :
    store.files.get? path = some record ∧ record.isDirectory = false ∧
      next = { store with
        currentFile := some path, strays := { store.strays with current? := none } }.changed := by
  obtain ⟨found, located, opened⟩ := Outcome.bind_ok.mp opened
  cases opened
  exact ⟨(getFile_ok.mp located).1, (getFile_ok.mp located).2, rfl⟩

theorem checkRelocation_ok :
    store.checkRelocation old new = .ok () ↔ Path.Clear store.files.keys old new := by
  have none : store.checkRelocation old new = .ok () ↔
      (new :: store.targets old new).find? store.has = none := by
    rw [checkRelocation]
    split
    · rename_i taken found
      simp [found]
    · rename_i free
      simp [free]
  rw [none, List.find?_eq_none]
  simp only [List.mem_cons, forall_eq_or_imp, targets, List.mem_map, List.mem_filter, has, Table.has_iff,
    forall_exists_index, and_imp]
  constructor
  · rintro ⟨target, free⟩
    exact ⟨target, fun key member under => free _ key member under rfl⟩
  · rintro ⟨target, free⟩
    refine ⟨target, ?_⟩
    rintro _ key member under rfl
    exact free key member under

/-- Rename and move end alike: a record that is there goes to a new path, if nothing is met there. -/
structure Relocates (store : Store) (old new : Text) (next : Store) : Prop where
  clear : Path.Clear store.files.keys old new
  result : next = (store.relocate old new).changed

theorem rename_ok (renamed : store.rename path newName = .ok (next, target)) :
    ∃ record, store.files.get? path = some record ∧
      checkName (Text.trim newName) record.isDirectory = .ok () ∧
      target = Path.join [Path.parent path, Text.trim newName] ∧ store.Relocates path target next := by
  obtain ⟨record, found, renamed⟩ := Outcome.bind_ok.mp renamed
  obtain ⟨_, named, renamed⟩ := Outcome.bind_ok.mp renamed
  obtain ⟨_, free, renamed⟩ := Outcome.bind_ok.mp renamed
  cases renamed
  exact ⟨record, get_ok.mp found, named, rfl, checkRelocation_ok.mp free, rfl⟩

theorem rename_clear (found : store.files.get? path = some record)
    (named : checkName (Text.trim newName) record.isDirectory = .ok ())
    (same : Path.join [Path.parent path, Text.trim newName] = target)
    (clear : Path.Clear store.files.keys path target) :
    store.rename path newName = .ok ((store.relocate path target).changed, target) := by
  rw [rename, get_ok.mpr found]
  simp only [Outcome.ok_bind, named, same, checkRelocation_ok.mpr clear]
  rfl

theorem move_ok (moved : store.move source folder = .ok (next, target)) :
    ∃ record, store.files.get? source = some record ∧
      (folder ≠ [] → ∃ above, store.files.get? folder = some above ∧ above.isDirectory = true ∧
        Path.isWithin folder source = false) ∧
      target = Path.join [folder, Path.basename source] ∧ store.Relocates source target next := by
  obtain ⟨record, found, moved⟩ := Outcome.bind_ok.mp moved
  by_cases root : folder.isEmpty = true
  · simp only [root, Bool.not_true, Bool.false_eq_true, if_false] at moved
    obtain ⟨_, free, moved⟩ := Outcome.bind_ok.mp moved
    cases moved
    exact ⟨record, get_ok.mp found, fun some => absurd (List.isEmpty_iff.mp root) some, rfl,
       checkRelocation_ok.mp free, rfl⟩
  · simp only [root, Bool.not_false, if_true] at moved
    obtain ⟨above, there, moved⟩ := Outcome.bind_ok.mp moved
    obtain ⟨kind, moved⟩ := Outcome.guard_ok.mp moved
    obtain ⟨outside, moved⟩ := Outcome.guard_ok.mp moved
    obtain ⟨_, free, moved⟩ := Outcome.bind_ok.mp moved
    cases moved
    exact ⟨record, get_ok.mp found,
      fun _ => ⟨above, get_ok.mp there, by simpa using kind, by simpa using outside⟩, rfl,
      checkRelocation_ok.mp free, rfl⟩

theorem delete_ok (deleted : store.delete path = .ok (next, removed)) :
    ∃ record, store.files.get? path = some record ∧
      removed = Order.sortBy Text.le (store.files.keys.filter fun key => Path.isWithin key path) ∧
      next = { store with
        files := store.files.keep fun key => !Path.isWithin key path
        currentFile := store.currentFile.filter fun current => !(removed.contains current) }.changed := by
  obtain ⟨record, found, deleted⟩ := Outcome.bind_ok.mp deleted
  cases deleted
  exact ⟨record, get_ok.mp found, rfl, rfl⟩

end Store
end LabEditor
