import LabEditor.Decimal.Binary64
import LabEditor.Table

/-! JSON values. Whole numbers and floating-point numbers are told apart, and the members of an
object keep their order. -/
namespace LabEditor

inductive Json where
  | null
  | bool (b : Bool)
  | int (n : Int)
  | float (x : Decimal.Binary64)
  | str (t : Text)
  | arr (items : List Json)
  | obj (members : List (Text × Json))
deriving Inhabited, Repr

namespace Json

/-- Null, false, zero, and the empty text, list and object count as no. -/
def truthy : Json → Bool
  | .null => false
  | .bool b => b
  | .int n => n != 0
  | .float x => !x.isZero
  | .str t => !t.isEmpty
  | .arr items => !items.isEmpty
  | .obj members => !members.isEmpty

def isNull : Json → Bool
  | .null => true
  | _ => false

/-- Lists and objects cannot serve as keys. -/
def isKey : Json → Bool
  | .arr _ | .obj _ => false
  | _ => true

def text? : Json → Option Text
  | .str t => some t
  | _ => none

def isText (t : Text) : Json → Bool
  | .str s => s == t
  | _ => false

/-- A text if there is one, and null otherwise. -/
def ofText? : Option Text → Json
  | some t => .str t
  | none => .null

def texts (ts : List Text) : Json :=
  .arr (ts.map .str)

end Json
end LabEditor
