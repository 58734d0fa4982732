/-!
# Binary floating-point numbers, exactly

A 64-bit floating-point number as the exact value `± mantissa · 2 ^ scale`.
Keeping mantissa and scale in lowest position makes the form unique, so that
two numbers are the same value exactly when they are the same term, signed
zeros and the one NaN apart from everything else.

`ofDecimal` reads a decimal by the rule of the format: the nearest
representable number, of two equally near ones the one with an even mantissa.
It works on exact integers, and never on an approximation.
-/

namespace RequestAtlas

/-- A 64-bit floating-point number. In `finite` the mantissa is below `2 ^ 53`,
and it is at least `2 ^ 52` unless the scale is the least one, `-1074`. -/
inductive Binary64 where
  | nan
  | infinite (negative : Bool)
  | finite (negative : Bool) (mantissa : Nat) (scale : Int)
  deriving DecidableEq, Repr, Inhabited

namespace Binary64

/-- The least scale: that of the subnormal numbers. -/
def minScale : Int := -1074

/-- The greatest scale: that of the numbers just below infinity. -/
def maxScale : Int := 971

/-- The zero of the given sign. -/
def zero (negative : Bool) : Binary64 :=
  .finite negative 0 minScale

/-- `a / b` rounded to the nearest natural number, a half to the even one. -/
def roundDiv (a b : Nat) : Nat :=
  let q := a / b
  let r := a % b
  if 2 * r < b then q
  else if b < 2 * r then q + 1
  else q + q % 2

/-- The quotient of `a / b` by `2 ^ k`, as numerator and denominator. -/
def unscaled (a b : Nat) (k : Int) : Nat × Nat :=
  if 0 ≤ k then (a, b * Nat.pow 2 k.toNat) else (a * Nat.pow 2 (-k).toNat, b)

/-- The number nearest to the positive quotient `a / b`, with the given sign. -/
def ofQuotient (negative : Bool) (a b : Nat) : Binary64 :=
  let guess : Int := (a.log2 : Int) - (b.log2 : Int) - 52
  let (a', b') := unscaled a b guess
  let scale := max minScale (if a' / b' < Nat.pow 2 52 then guess - 1 else guess)
  let (num, den) := unscaled a b scale
  let mantissa := roundDiv num den
  let (mantissa, scale) :=
    if mantissa = Nat.pow 2 53 then (Nat.pow 2 52, scale + 1) else (mantissa, scale)
  if maxScale < scale then .infinite negative else .finite negative mantissa scale

/-- The number nearest to `± digits · 10 ^ exponent`. Values beyond `10 ^ 310`
and below `10 ^ -330` are settled by their size alone. -/
def ofDecimal (negative : Bool) (digits : Nat) (exponent : Int) : Binary64 :=
  let size : Int := (Nat.toDigits 10 digits).length + exponent
  if digits = 0 ∨ size < -330 then zero negative
  else if 310 < size then .infinite negative
  else if 0 ≤ exponent then ofQuotient negative (digits * Nat.pow 10 exponent.toNat) 1
  else ofQuotient negative digits (Nat.pow 10 (-exponent).toNat)

/-- Whether the number is one of the two zeros. -/
def isZero : Binary64 → Bool
  | .finite _ 0 _ => true
  | _ => false

/-- Whether the number is neither an infinity nor NaN. -/
def isFinite : Binary64 → Bool
  | .finite _ _ _ => true
  | _ => false

/-- The integer of the same value, if there is one. -/
def toInt? : Binary64 → Option Int
  | .finite negative mantissa scale =>
    let magnitude? : Option Nat :=
      if 0 ≤ scale then some (mantissa * Nat.pow 2 scale.toNat)
      else
        let unit := Nat.pow 2 (-scale).toNat
        if mantissa % unit = 0 then some (mantissa / unit) else none
    magnitude?.map fun m => if negative then -(m : Int) else m
  | _ => none

end Binary64

end RequestAtlas
