import LabEditor.Failure

/-! Taking values apart whose shape is not known. -/
namespace LabEditor.Json

/-- A member that an object must have. -/
def member (value : Json) (name : Text) : Except Fault Json :=
  match value with
  | .obj members =>
    match Table.get? members name with
    | some value => .ok value
    | none => .error (.missingMember name)
  | _ => .error .noMembers

/-- A member of an object, or a default if it has none of that name. -/
def memberOr (value : Json) (name : Text) (default : Json) : Except Fault Json :=
  match value with
  | .obj members => .ok ((Table.get? members name).getD default)
  | _ => .error .notAnObject

/-- The items of a list, the names of the members of an object, or the characters of a text. -/
def items : Json → Except Fault (List Json)
  | .arr items => .ok items
  | .obj members => .ok (members.map fun (name, _) => .str name)
  | .str t => .ok (t.map fun c => .str [c])
  | _ => .error .notASequence

/-- The two items of a value that has two. -/
def pair (value : Json) : Except Fault (Json × Json) := do
  match ← value.items with
  | [first, second] => pure (first, second)
  | _ => .error .notAPair

end LabEditor.Json
