import LabEditor.Json.Access
import LabEditor.Proofs.Outcome

/-! When a value can be taken apart as a step asks for it. -/
namespace LabEditor.Json
variable {α : Type} {value first second : Json} {items : List Json} {members : Table Json} {name : Text}
variable {P : Json → Prop} {read : Json → Except Fault α} {R : α → Prop}

theorem member_ok {found : Json} : value.member name = .ok found ↔
    ∃ members, value = .obj members ∧ Table.get? members name = some found := by
  cases value with
  | obj members =>
    cases known : Table.get? members name with
    | none => simp [member, known]
    | some other => simp [member, known]
  | _ => simp [member]

theorem memberOr_ok {default found : Json} (asked : value.memberOr name default = .ok found) :
    ∃ members, value = .obj members := by
  cases value with
  | obj members => exact ⟨members, rfl⟩
  | _ => contradiction

theorem truthy_getD {found : Option Json} :
    (found.getD .null).truthy = true ↔ ∃ value, found = some value ∧ value.truthy = true := by
  cases found with
  | none => simp [truthy]
  | some value => simp

theorem pair_ok : value.pair = .ok (first, second) ↔ value.items = .ok [first, second] := by
  constructor
  · intro read
    obtain ⟨items, split, two⟩ := Outcome.bind_ok.mp read
    split at two
    · cases two
      exact split
    · contradiction
  · intro split
    rw [pair, split]
    rfl

theorem items_error {cause : Fault} (refused : value.items = .error cause) :
    cause = .notASequence := by
  cases value with
  | arr _ | obj _ | str _ => contradiction
  | _ =>
    cases refused
    rfl

theorem pair_notAPair : value.pair = .error .notAPair ↔
    ∃ parts, value.items = .ok parts ∧ parts.length ≠ 2 := by
  cases split : value.items with
  | error cause =>
    cases items_error split
    simp [pair, split]
  | ok parts =>
    match parts with
    | [] => simp [pair, split]
    | [_] => simp [pair, split]
    | [_, _] => simp [pair, split]
    | _ :: _ :: _ :: _ => simp [pair, split]

/-- Only a list has an object among its items. -/
theorem items_obj (split : value.items = .ok items) (member : .obj members ∈ items) :
    value = .arr items := by
  cases value with
  | arr _ =>
    cases split
    rfl
  | str _ | obj _ =>
    cases split
    obtain ⟨_, _, same⟩ := List.mem_map.mp member
    contradiction
  | _ => contradiction

theorem pair_obj : value.pair = .ok (first, .obj members) ↔ value = .arr [first, .obj members] := by
  rw [pair_ok]
  constructor
  · intro split
    exact items_obj split (List.mem_cons_of_mem _ List.mem_cons_self)
  · rintro rfl
    rfl

/-- What stands under a name, if anything does, passes a test. -/
def Fits (members : Table Json) (name : Text) (P : Json → Prop) : Prop :=
  ∀ value, members.get? name = some value → P value

theorem memberOr_fits (default : Json) (fits : P default) :
    (∃ found, (Json.obj members).memberOr name default = .ok found ∧ P found) ↔
      Fits members name P := by
  simp only [memberOr, Except.ok.injEq, exists_eq_left', Fits]
  cases members.get? name with
  | none => simpa using fits
  | some found => simp

/-- A list of what passes a test. An empty text and an empty object have no items either. -/
inductive IsListOf (P : Json → Prop) : Json → Prop
  | list {items : List Json} :
    (∀ item ∈ items, P item) → IsListOf P (.arr items)
  | emptyText : IsListOf P (.str [])
  | emptyObject : IsListOf P (.obj [])

/-- The items of any other text, and those of any other object, are texts. -/
theorem items_isListOf (noText : ∀ t, ¬ P (.str t)) :
    (∃ items, value.items = .ok items ∧ ∀ item ∈ items, P item) ↔ IsListOf P value := by
  constructor
  · rintro ⟨items, found, each⟩
    cases value with
    | arr _ =>
      cases found
      exact .list each
    | str t =>
      cases found
      cases t with
      | nil => exact .emptyText
      | cons c t => exact absurd (each _ List.mem_cons_self) (noText _)
    | obj members =>
      cases found
      cases members with
      | nil => exact .emptyObject
      | cons entry members => exact absurd (each _ List.mem_cons_self) (noText _)
    | _ => contradiction
  · rintro (⟨each⟩ | _ | _)
    · exact ⟨_, rfl, each⟩
    · exact ⟨[], rfl, List.forall_mem_nil _⟩
    · exact ⟨[], rfl, List.forall_mem_nil _⟩

/-- Reads the items of a list under a name, if there is one. -/
def readList (value : Json) (name : Text) (read : Json → Except Fault α) : Except Fault (List α) := do
  let list ← value.memberOr name (.arr [])
  let items ← list.items
  items.mapM read

theorem readList_fits (noText : ∀ t, ¬ ∃ item, read (.str t) = .ok item ∧ R item) :
    (∃ found, (Json.obj members).readList name read = .ok found ∧ ∀ item ∈ found, R item) ↔
      Fits members name (IsListOf fun value => ∃ item, read value = .ok item ∧ R item) := by
  rw [← memberOr_fits (.arr []) (.list (List.forall_mem_nil _))]
  simp only [← items_isListOf (P := fun value => ∃ item, read value = .ok item ∧ R item) noText,
    ← Outcome.mapM_ok_iff, readList, Outcome.bind_ok]
  constructor
  · rintro ⟨found, ⟨list, known, items, split, done⟩, each⟩
    exact ⟨list, known, items, split, found, done, each⟩
  · rintro ⟨list, known, items, split, found, done, each⟩
    exact ⟨found, ⟨list, known, items, split, done⟩, each⟩

theorem readList_ok (noText : ∀ t, ¬ ∃ item, read (.str t) = .ok item) :
    (∃ found, (Json.obj members).readList name read = .ok found) ↔
      Fits members name (IsListOf fun value => ∃ item, read value = .ok item) := by
  have noItem (t : Text) : ¬ ∃ item, read (.str t) = .ok item ∧ True := by simpa using noText t
  simpa using @readList_fits α members name read (fun _ => True) noItem

end LabEditor.Json
