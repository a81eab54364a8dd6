/-! Binary floating-point numbers of 64 bits, and the rounding of decimal fractions to them. -/
namespace LabEditor.Decimal

/-- A finite number is `± mantissa · 2 ^ exponent`, with 53 bits of mantissa at most and the least
exponent not below -1074 that allows them. -/
inductive Binary64 where
  | finite (negative : Bool) (mantissa : Nat) (exponent : Int)
  | infinite (negative : Bool)
  | nan
deriving Repr, DecidableEq, Inhabited

/-- The quotient rounded to the nearest whole number, a half to the even one. -/
def roundDiv (num den : Nat) : Nat :=
  let q := num / den
  let r := 2 * (num % den)
  if r < den then q else if den < r then q + 1 else q + q % 2

/-- The ratio `num / den / 2 ^ e` as a pair of numerator and denominator. -/
def scaled (num den : Nat) (e : Int) : Nat × Nat :=
  if 0 ≤ e then (num, den * Nat.pow 2 e.toNat) else (num * Nat.pow 2 (-e).toNat, den)

namespace Binary64

def isZero : Binary64 → Bool
  | .finite _ mantissa _ => mantissa == 0
  | _ => false

/-- The number nearest to a positive ratio. -/
def ofRatio (negative : Bool) (num den : Nat) : Binary64 :=
  let guess : Int := (Nat.log2 num : Int) - (Nat.log2 den : Int)
  let (n, d) := scaled num den guess
  let e := max (if d ≤ n then guess - 52 else guess - 53) (-1074)
  let (n, d) := scaled num den e
  let mantissa := roundDiv n d
  let (mantissa, e) := if mantissa = Nat.pow 2 53 then (Nat.pow 2 52, e + 1) else (mantissa, e)
  if 971 < e then .infinite negative else .finite negative mantissa e

/-- The number nearest to `digits · 10 ^ exponent`. Far outside the range of magnitudes the powers
of ten are not computed. -/
def ofDecimal (negative : Bool) (digits : Nat) (exponent : Int) : Binary64 :=
  let places := (Nat.toDigits 10 digits).length
  if digits = 0 then .finite negative 0 (-1074)
  else if 400 < exponent + places then .infinite negative
  else if exponent + places < -400 then .finite negative 0 (-1074)
  else if 0 ≤ exponent then ofRatio negative (digits * Nat.pow 10 exponent.toNat) 1
  else ofRatio negative digits (Nat.pow 10 (-exponent).toNat)

end Binary64
end LabEditor.Decimal
