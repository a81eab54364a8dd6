import LabEditor.Json.Basic

/-! Values as keys and in order. Numbers are compared by what they are worth, whatever their kind,
and the words for yes and no count as one and zero. -/
namespace LabEditor.Json

/-- A number between minus and plus infinity, in units of the least positive floating-point number;
all finite numbers are whole in these units. -/
inductive Magnitude where
  | least
  | units (n : Int)
  | greatest
  | noNumber
deriving DecidableEq, Repr

/-- How many halvings lead from one to the least positive floating-point number. -/
def unitScale : Nat := 1074

/-- The worth of a number, and of yes and no. -/
def magnitude? : Json → Option Magnitude
  | .bool b => some (.units (if b then Nat.pow 2 unitScale else 0))
  | .int n => some (.units (n * Nat.pow 2 unitScale))
  | .float (.finite negative mantissa exponent) =>
    let n : Int := mantissa * Nat.pow 2 (exponent + unitScale).toNat
    some (.units (if negative then -n else n))
  | .float (.infinite true) => some .least
  | .float (.infinite false) => some .greatest
  | .float .nan => some .noNumber
  | _ => none

/-- A value as a key. Numbers that are worth the same are one key, however they are written. -/
inductive Key where
  | null
  | text (t : Text)
  | number (worth : Magnitude)
deriving DecidableEq, Repr

/-- What a value is as a key; lists and objects are none. -/
def key? : Json → Option Key
  | .null => some .null
  | .str t => some (.text t)
  | value => value.magnitude?.map .number

def Magnitude.before : Magnitude → Magnitude → Bool
  | .least, .least => false
  | .least, .units _ | .least, .greatest | .units _, .greatest => true
  | .units m, .units n => m < n
  | _, _ => false

mutual

/-- Whether two values are the same as keys. The members of objects may come in any order. -/
def same : Json → Json → Bool
  | .null, .null => true
  | .str s, .str t => s == t
  | .arr xs, .arr ys => sameItems xs ys
  | .obj xs, .obj ys => xs.length == ys.length && sameMembers xs ys
  | x, y => x.magnitude?.isSome && x.magnitude? == y.magnitude?

def sameItems : List Json → List Json → Bool
  | [], [] => true
  | x :: xs, y :: ys => same x y && sameItems xs ys
  | _, _ => false

/-- Whether each member is one of the others too. -/
def sameMembers : List (Text × Json) → List (Text × Json) → Bool
  | [], _ => true
  | (name, x) :: xs, ys =>
    (match Table.get? ys name with
      | some y => same x y
      | none => false) && sameMembers xs ys

end

mutual

/-- Whether a value comes before another one; only numbers, texts and lists among themselves have an
order. -/
def before? : Json → Json → Option Bool
  | .str s, .str t => some (s != t && Text.le s t)
  | .arr xs, .arr ys => itemsBefore? xs ys
  | x, y =>
    match x.magnitude?, y.magnitude? with
    | some m, some n => some (m.before n)
    | _, _ => none

/-- The first items that differ decide, and a beginning comes before what it begins. -/
def itemsBefore? : List Json → List Json → Option Bool
  | [], ys => some !ys.isEmpty
  | _ :: _, [] => some false
  | x :: xs, y :: ys => if same x y then itemsBefore? xs ys else before? x y

end

/-- Whether values can be put in order: of any two of them one comes first or neither. -/
def haveOrder : List Json → Bool
  | [] => true
  | x :: xs => (xs.all fun y => (before? x y).isSome) && haveOrder xs

end LabEditor.Json
