import LabEditor.Json.Basic
import LabEditor.Text.Digit
import LabEditor.Text.Entity

/-! Reading JSON. Beside the standard grammar, the words for infinities and for no number are read;
of several members of one name the last value counts, at the place of the first. -/
namespace LabEditor.Json

open Text (hexValue? hexNumber)

def isSpace (c : CodePoint) : Bool :=
  c == ' ' || c == '\t' || c == '\n' || c == '\r'

def skipSpace (t : Text) : Text :=
  t.dropWhile isSpace

/-- Four hexadecimal digits. -/
def readUnit? : Text → Option (Nat × Text)
  | a :: b :: c :: d :: t =>
    let digits := [a, b, c, d]
    if digits.all fun x => (hexValue? x).isSome then some (hexNumber digits, t) else none
  | _ => none

/-- The code point of a UTF-16 unit. A second unit may make a pair with it; a half alone stays a half.
-/
def readEscapedUnit? (t : Text) : Option (CodePoint × Text) :=
  match readUnit? t with
  | none => none
  | some (high, rest) =>
    if 0xd800 ≤ high && high < 0xdc00 then
      match rest with
      | '\\' :: 'u' :: more =>
        match readUnit? more with
        | some (low, rest') =>
          if 0xdc00 ≤ low && low < 0xe000 then
            some (.ofNat (0x10000 + (high - 0xd800) * 0x400 + (low - 0xdc00)), rest')
          else some (.ofNat high, rest)
        | none => some (.ofNat high, rest)
      | _ => some (.ofNat high, rest)
    else some (.ofNat high, rest)

def simpleEscape? : CodePoint → Option CodePoint
  | '"' => some '"'
  | '\\' => some '\\'
  | '/' => some '/'
  | 'b' => some '\x08'
  | 'f' => some '\x0c'
  | 'n' => some '\n'
  | 'r' => some '\r'
  | 't' => some '\t'
  | _ => none

/-- The rest of a text after its opening quote; the first `skip` characters belong to an escape
already read. -/
def readText? : (skip : Nat) → Text → Option (Text × Text)
  | _, [] => none
  | skip + 1, _ :: t => readText? skip t
  | 0, c :: t =>
    if c = '"' then some ([], t)
    else if c = '\\' then
      match t with
      | [] => none
      | e :: u =>
        match if e = 'u' then readEscapedUnit? u else (simpleEscape? e).map fun x => (x, u) with
        | none => none
        | some (x, rest) => (readText? (t.length - rest.length) t).map fun (s, r) => (x :: s, r)
    else if c.toNat < 0x20 then none
    else (readText? 0 t).map fun (s, r) => (c :: s, r)

/-- The digits after a decimal point, if there are any. -/
def readFraction (t : Text) : Text × Text :=
  match t with
  | '.' :: u =>
    let ds := u.takeWhile CodePoint.isDigit
    if ds.isEmpty then ([], t) else (ds, u.drop ds.length)
  | _ => ([], t)

/-- The exponent of a number, if there is one. -/
def readExponent (t : Text) : Option Int × Text :=
  match t with
  | e :: u =>
    if e = 'e' || e = 'E' then
      let (negative, v) := match u with
        | '-' :: v => (true, v)
        | '+' :: v => (false, v)
        | v => (false, v)
      let ds := v.takeWhile CodePoint.isDigit
      if ds.isEmpty then (none, t)
      else
        let n : Int := Text.numberOf ds
        (some (if negative then -n else n), v.drop ds.length)
    else (none, t)
  | [] => (none, t)

/-- Why a text is not read as a value. -/
inductive ReadError where
  | malformed
  /-- A whole number has more digits than are read. -/
  | numberTooLong
  /-- Lists and objects stand in one another more often than they are read. -/
  | tooDeep
deriving DecidableEq, Repr

/-- A number without its sign; a fraction or an exponent makes it a floating-point number, whose
digits may be any number. -/
def readNumber (negative : Bool) (t : Text) : Except ReadError (Json × Text) :=
  let run := t.takeWhile CodePoint.isDigit
  let whole : Text := match run with
    | '0' :: _ => ['0']
    | ds => ds
  if whole.isEmpty then .error .malformed
  else
    let (fraction, u) := readFraction (t.drop whole.length)
    let (exponent, v) := readExponent u
    if fraction.isEmpty && exponent.isNone then
      match Text.number? whole with
      | some n => .ok (.int (if negative then -n else n), v)
      | none => .error .numberTooLong
    else
      let ds := whole ++ fraction
      .ok (.float (.ofDecimal negative (Text.numberOf ds) (exponent.getD 0 - fraction.length)), v)

/-- The words that are values. -/
def words : List (Text × Json) := [
  ("null", .null), ("true", .bool true), ("false", .bool false), ("NaN", .float .nan),
  ("Infinity", .float (.infinite false)), ("-Infinity", .float (.infinite true))]

/-- A text after its opening quote. -/
def readText (t : Text) : Except ReadError (Text × Text) :=
  match readText? 0 t with
  | some found => .ok found
  | none => .error .malformed

/-- Words, numbers and texts. -/
def readScalar (t : Text) : Except ReadError (Json × Text) :=
  match words.findSome? fun (word, value) => (Text.after? word t).map fun rest => (value, rest) with
  | some found => .ok found
  | none =>
    match t with
    | '"' :: u => (readText u).map fun (s, r) => (.str s, r)
    | '-' :: u => readNumber true u
    | _ => readNumber false t

mutual

/-- A value without white space before it, with at most `depth` lists and objects in one another.
Each step into a list or object and each item takes one unit of `fuel`. -/
def readValue : (fuel depth : Nat) → Text → Except ReadError (Json × Text)
  | 0, _, _ => .error .malformed
  | _ + 1, 0, '[' :: _ | _ + 1, 0, '\x7b' :: _ => .error .tooDeep
  | fuel + 1, depth + 1, '[' :: t =>
    match skipSpace t with
    | ']' :: r => .ok (.arr [], r)
    | u => (readItems fuel depth u).map fun (items, r) => (.arr items, r)
  | fuel + 1, depth + 1, '\x7b' :: t =>
    match skipSpace t with
    | '\x7d' :: r => .ok (.obj [], r)
    | u => (readMembers fuel depth u).map fun (members, r) => (.obj (Table.ofEntries members), r)
  | _ + 1, _, t => readScalar t

/-- One or more items and the closing bracket. -/
def readItems : (fuel depth : Nat) → Text → Except ReadError (List Json × Text)
  | 0, _, _ => .error .malformed
  | fuel + 1, depth, t => do
    let (item, r) ← readValue fuel depth t
    match skipSpace r with
    | ']' :: s => pure ([item], s)
    | ',' :: s =>
      let (items, u) ← readItems fuel depth (skipSpace s)
      pure (item :: items, u)
    | _ => throw .malformed

/-- One or more members and the closing brace. -/
def readMembers : (fuel depth : Nat) → Text → Except ReadError (List (Text × Json) × Text)
  | 0, _, _ => .error .malformed
  | fuel + 1, depth, '"' :: t => do
    let (name, r) ← readText t
    match skipSpace r with
    | ':' :: s =>
      let (value, u) ← readValue fuel depth (skipSpace s)
      match skipSpace u with
      | '\x7d' :: v => pure ([(name, value)], v)
      | ',' :: v =>
        let (members, w) ← readMembers fuel depth (skipSpace v)
        pure ((name, value) :: members, w)
      | _ => throw .malformed
    | _ => throw .malformed
  | _ + 1, _, _ => .error .malformed

end

/-- The value that a whole text writes, with white space around it. Lists and objects may stand in one
another up to a limit, which depends on who reads. What comes first in the text decides why it is not
read. -/
def read (limit : Nat) (t : Text) : Except ReadError Json := do
  let (value, r) ← readValue (t.length + 1) limit (skipSpace t)
  if (skipSpace r).isEmpty then pure value else throw .malformed

/-- The value that a text writes, if there is one. -/
def read? (limit : Nat) (t : Text) : Option Json :=
  (read limit t).toOption

end LabEditor.Json
