import LabEditor.Decimal.Binary64
import LabEditor.Text.Digit

/-! The fewest decimal digits that read back as the same binary number, and of those the nearest. -/
namespace LabEditor.Decimal

/-- Digits after the decimal point of `0.d₁d₂… · 10 ^ point`. -/
structure Digits where
  number : Nat
  point : Int
deriving Repr, DecidableEq

/-- The power of ten just above a positive ratio: `10 ^ (k - 1) ≤ num / den < 10 ^ k`. -/
def pointOf (num den : Nat) : Int :=
  if den ≤ num then (Nat.toDigits 10 (num / den)).length
  else
    match (List.range 400).find? fun j => den ≤ num * Nat.pow 10 (j + 1) with
    | some j => -(j : Int)
    | none => -400

/-- The multiple of `10 ^ (point - places)` among the two around `num / den` that lies between
`low / den` and `high / den`, the nearer one if both do. -/
def nearestWithin (num low high den : Nat) (closed : Bool) (point : Int) (places : Nat) :
    Option Digits :=
  let shift := (places : Int) - point
  let up := Nat.pow 10 shift.toNat
  let down := Nat.pow 10 (-shift).toNat
  let below := num * up / (den * down)
  let within (m : Nat) : Bool :=
    let v := m * den * down
    if closed then low * up ≤ v && v ≤ high * up else low * up < v && v < high * up
  let distanceBelow := num * up - below * den * down
  let distanceAbove := (below + 1) * den * down - num * up
  let choice :=
    if within below && within (below + 1) then
      if distanceBelow < distanceAbove || (distanceBelow == distanceAbove && below % 2 == 0) then
        some below
      else some (below + 1)
    else if within below then some below
    else if within (below + 1) then some (below + 1)
    else none
  choice.map fun m => if m = Nat.pow 10 places then ⟨1, point + 1⟩ else ⟨m, point⟩

/-- The shortest digits of `mantissa · 2 ^ exponent`, a positive number of 64 bits. Numbers between
the midpoints to its two neighbours read back as the number itself. -/
def shortest (mantissa : Nat) (exponent : Int) : Digits :=
  let factor := Nat.pow 2 (exponent - 2).toNat
  let den := Nat.pow 2 (2 - exponent).toNat
  let num := 4 * mantissa * factor
  let gap := if mantissa = Nat.pow 2 52 && -1074 < exponent then 1 else 2
  let low := (4 * mantissa - gap) * factor
  let high := (4 * mantissa + 2) * factor
  let point := pointOf num den
  let found := (List.range 17).findSome? fun n =>
    nearestWithin num low high den (mantissa % 2 == 0) point (n + 1)
  found.getD ⟨0, 0⟩

/-- How a finite number is written: positional with a point and at least one digit on both sides
when the decimal point falls after at most sixteen digits and after at most three zeros, and
otherwise with a signed exponent of at least two digits. -/
def Digits.write (d : Digits) : Text :=
  let ds := Text.digits d.number
  let n : Int := ds.length
  if -4 < d.point && d.point ≤ 16 then
    if d.point ≤ 0 then '0' :: '.' :: (List.replicate (-d.point).toNat ('0' : CodePoint) ++ ds)
    else if n ≤ d.point then ds ++ List.replicate (d.point - n).toNat ('0' : CodePoint) ++ (['.', '0'] : Text)
    else ds.take d.point.toNat ++ ('.' : CodePoint) :: ds.drop d.point.toNat
  else
    let e := d.point - 1
    let size := Text.digits e.natAbs
    let sign : CodePoint := if e < 0 then '-' else '+'
    let exponent := sign :: (if size.length < 2 then '0' :: size else size)
    match ds with
    | [] => []
    | [x] => x :: 'e' :: exponent
    | x :: xs => x :: '.' :: xs ++ ('e' : CodePoint) :: exponent

/-- The text of a floating-point number, given the words for infinity and for no number. -/
def Binary64.write (infinity noNumber : Text) : Binary64 → Text
  | .finite negative mantissa exponent =>
    (if negative then (['-'] : Text) else []) ++
      if mantissa = 0 then (['0', '.', '0'] : Text)
      else
        let d := shortest mantissa exponent
        let ds := Text.dropEndWhile (· == '0') (Text.digits d.number)
        (Digits.mk (Text.numberOf ds) d.point).write
  | .infinite negative => (if negative then (['-'] : Text) else []) ++ infinity
  | .nan => noNumber

end LabEditor.Decimal
