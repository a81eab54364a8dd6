import LabEditor.Proofs.Json.RoundTrip
import LabEditor.Proofs.Store.Run

/-! The contents of the records come from the calls: each is one that a call was given, or was there
before. So a store holds nothing that cannot be written and read again, if no call is given such. -/
namespace LabEditor

open Record (Written)

/-- A record that can be written and read again. -/
structure Record.Written.Proper (record : Written) : Prop where
  name : record.name.Proper
  path : record.path.Proper
  content : record.content.Proper

theorem Record.Written.Proper.toJson {record : Written} (proper : record.Proper) :
    record.toJson.Proper := by
  have distinct : (["name", "path", "content", "isDirectory"] : List Text).Nodup := by decide
  refine .obj distinct ?_
  simp only [List.forall_mem_cons, List.not_mem_nil, false_implies, implies_true, and_true]
  exact ⟨proper.name, proper.path, proper.content, .bool _⟩

/-- All contents have a property. -/
def Store.Bears (P : Json → Prop) (store : Store) : Prop :=
  ∀ entry ∈ store.files, P entry.2.content

namespace Store.Bears
variable {P : Json → Prop} {store next : Store} {record : Record} {path : Text}

theorem empty : Store.empty.Bears P :=
  fun _ none => absurd none List.not_mem_nil

theorem put (bears : store.Bears P) (content : P record.content) (path : Text) :
    ∀ entry ∈ store.files.put path record, P entry.2.content := by
  intro entry member
  rcases Table.mem_put member with rfl | before
  · exact content
  · exact bears entry before

/-- A folder has no content of its own. -/
theorem create_iff (bears : store.Bears P) (bare : P (.str []))
    (made : store.create typed isDirectory content = .ok (next, record)) :
    next.Bears P ↔ (isDirectory = false → P content) := by
  obtain ⟨_, absent, rfl, rfl⟩ := create_ok made
  constructor
  · rintro bears rfl
    refine bears (Path.normalize typed, fresh typed false content) ?_
    rw [changed, Table.put_new absent]
    exact List.mem_append_right _ List.mem_cons_self
  · intro given
    refine bears.put ?_ _
    cases isDirectory with
    | true => exact bare
    | false => exact given rfl

theorem write (bears : store.Bears P) (given : P content)
    (written : store.write path content = .ok next) : next.Bears P := by
  obtain ⟨record, _, _, rfl⟩ := write_ok written
  exact bears.put given path

theorem relocates (bears : store.Bears P) (relocates : store.Relocates old new next) :
    next.Bears P := by
  rw [relocates.result]
  intro entry member
  obtain ⟨before, known, rfl⟩ := List.mem_map.mp (Table.mem_ofEntries member)
  rw [(relocateEntry_keeps before).1]
  exact bears before known

theorem delete (bears : store.Bears P) (deleted : store.delete path = .ok (next, removed)) :
    next.Bears P := by
  obtain ⟨_, _, _, result⟩ := delete_ok deleted
  intro entry member
  rw [result] at member
  have kept : entry ∈ store.files.keep fun key => !Path.isWithin key path := member
  exact bears entry (Table.mem_keep.mp kept).1

theorem call (bears : store.Bears P) (bare : P (.str [])) (call : Call)
    (given : ∀ content ∈ call.contents, P content) (done : call.outcome store = .ok next) :
    next.Bears P := by
  cases call with
  | create typed isDirectory content =>
    obtain ⟨_, made, rfl⟩ := Outcome.map_eq_ok.mp done
    refine (bears.create_iff bare (Outcome.ofRefusal_eq_ok.mp made)).mpr fun file => given content ?_
    cases file
    exact List.mem_cons_self
  | write path content =>
    exact bears.write (given content List.mem_cons_self) (Outcome.ofRefusal_eq_ok.mp done)
  | openFile path =>
    obtain ⟨_, opened, rfl⟩ := Outcome.map_eq_ok.mp done
    obtain ⟨_, _, result⟩ := openFile_ok (Outcome.ofRefusal_eq_ok.mp opened)
    rw [result]
    exact bears
  | close =>
    cases done
    rw [Store.close]
    split <;> exact bears
  | rename path newName =>
    obtain ⟨_, renamed, rfl⟩ := Outcome.map_eq_ok.mp done
    obtain ⟨_, _, _, _, relocates⟩ := rename_ok (Outcome.ofRefusal_eq_ok.mp renamed)
    exact bears.relocates relocates
  | move source folder =>
    obtain ⟨_, moved, rfl⟩ := Outcome.map_eq_ok.mp done
    obtain ⟨_, _, _, _, relocates⟩ := move_ok (Outcome.ofRefusal_eq_ok.mp moved)
    exact bears.relocates relocates
  | delete path =>
    obtain ⟨_, deleted, rfl⟩ := Outcome.map_eq_ok.mp done
    exact bears.delete (Outcome.ofRefusal_eq_ok.mp deleted)

/-- What a lab is made of must have the property, a descriptor with any texts in it included. -/
theorem scaffold (bears : store.Bears P) (bare : P (.str []))
    (offered : ∀ path t, Lab.Offered (path, some t) → P (.str t)) (title image : Text) :
    (Lab.scaffold store title image).1.Bears P := by
  refine Lab.scaffold_keeps (P := Store.Bears P) ?_ bears title image
  intro file before after record known has made
  refine (has.create_iff bare made).mpr fun plain => ?_
  obtain ⟨path, _ | t⟩ := file
  · contradiction
  · exact offered path t known

/-- What is listed has the property too. -/
theorem listing (bears : store.Bears P) (sound : store.Sound) :
    ∀ record ∈ store.listing, P record.content := by
  rw [listing_plain sound.plain, records_sorted]
  intro written member
  obtain ⟨record, inside, rfl⟩ := List.mem_map.mp member
  obtain ⟨entry, known, rfl⟩ := List.mem_map.mp inside
  exact bears entry ((perm_sorted store).mem_iff.mp known)

theorem replaceAll {records : List Record} (listed : ∀ record ∈ records, P record.content)
    (store : Store) : (store.replaceAll records).Bears P := by
  intro entry member
  obtain ⟨record, known, rfl⟩ := List.mem_map.mp (Table.mem_ofEntries member)
  exact listed record known

end Store.Bears

/-- All contents are values that can be read. -/
def Store.Proper (store : Store) : Prop :=
  ∀ entry ∈ store.files, entry.2.content.Proper

/-- What is listed can be written and read again. -/
theorem Store.Proper.listing {store : Store} (proper : store.Proper) (sound : store.Sound) :
    ∀ record ∈ store.listing, record.Proper := by
  rw [listing_plain sound.plain, records_sorted]
  intro written member
  obtain ⟨record, inside, rfl⟩ := List.mem_map.mp member
  obtain ⟨entry, known, rfl⟩ := List.mem_map.mp inside
  have there := (perm_sorted store).mem_iff.mp known
  refine ⟨?_, .str _, proper entry there⟩
  rw [Record.written, (sound.records entry there).name]
  exact .str _

/-- A sound store lists records whose names and paths are texts. -/
theorem Store.Sound.listing_texts {store : Store} (sound : store.Sound) :
    ∀ record ∈ store.listing, ∃ name path, record.name = .str name ∧ record.path = .str path := by
  rw [listing_plain sound.plain, records_sorted]
  intro written member
  obtain ⟨record, inside, rfl⟩ := List.mem_map.mp member
  obtain ⟨entry, known, rfl⟩ := List.mem_map.mp inside
  have there := (perm_sorted store).mem_iff.mp known
  exact ⟨_, _, (sound.records entry there).name, rfl⟩

/-- A lab is made by changes of the store, or it was there. -/
theorem Store.scaffold_counted (store : Store) (title image : Text) :
    (Lab.scaffold store title image).1 = store ∨
      (Lab.scaffold store title image).1.revision ≠ store.revision := by
  have grows : (Lab.scaffold store title image).1 = store ∨
      store.revision < (Lab.scaffold store title image).1.revision := by
    apply Lab.scaffold_keeps (P := fun later => later = store ∨ store.revision < later.revision) _
      (Or.inl rfl)
    intro file before after record _ reached made
    obtain ⟨_, _, _, rfl⟩ := create_ok made
    rcases reached with rfl | more
    · exact Or.inr (Nat.lt_succ_self _)
    · exact Or.inr (Nat.lt_succ_of_lt more)
  exact grows.imp_right Nat.ne_of_gt

end LabEditor
