import RequestAtlas.Decimal.Shortest

/-!
# Numbers as text

Integers, zero-filled numbers, and the layout of a floating-point number. The
layout is one record: where positional writing ends, what an exponent looks
like, and the names of the numbers that are not finite.
-/

namespace RequestAtlas

namespace Decimal

/-- The decimal text of an integer. -/
def intDigits (i : Int) : List Char :=
  if i < 0 then '-' :: Nat.toDigits 10 i.natAbs else Nat.toDigits 10 i.natAbs

/-- `n` in decimal, filled up with zeros to `width` places. -/
def padded (width n : Nat) : List Char :=
  let ds := Nat.toDigits 10 n
  List.replicate (width - ds.length) '0' ++ ds

end Decimal

/-- How floating-point numbers are written. -/
structure NumberLayout where
  /-- The least exponent of the leading digit that is written positionally. -/
  leastPositional : Int
  /-- The least exponent of the leading digit that is not. -/
  leastScientific : Int
  /-- The mark before the exponent. -/
  exponentMark : Char
  /-- The least number of digits of an exponent. -/
  exponentWidth : Nat
  nanName : String
  infinityName : String

namespace NumberLayout

/-- Positional from `0.0001` up to `10 ^ 16`; exponents have a sign and at
least two digits; whole numbers end in `.0`. -/
def plain : NumberLayout where
  leastPositional := -4
  leastScientific := 16
  exponentMark := 'e'
  exponentWidth := 2
  nanName := "NaN"
  infinityName := "Infinity"

/-- `plain` with the names that a message uses for the numbers that are not
finite. -/
def message : NumberLayout :=
  { plain with nanName := "nan", infinityName := "inf" }

/-- The digits `ds` with the point behind the first `before` of them, filled up
with zeros on either side. -/
def positional (ds : List Char) (before : Int) : List Char :=
  if before ≤ 0 then
    '0' :: '.' :: List.replicate (-before).toNat '0' ++ ds
  else
    let n := before.toNat
    let whole := ds.take n ++ List.replicate (n - ds.length) '0'
    let rest := ds.drop n
    whole ++ '.' :: (if rest.isEmpty then ['0'] else rest)

/-- The digits `ds` with the point behind the first of them and the exponent of
that first digit. -/
def scientific (l : NumberLayout) (ds : List Char) (exponent : Int) : List Char :=
  let rest := ds.drop 1
  ds.take 1 ++ (if rest.isEmpty then [] else '.' :: rest)
    ++ l.exponentMark :: (if exponent < 0 then '-' else '+')
      :: Decimal.padded l.exponentWidth exponent.natAbs

/-- A finite number of the given absolute value. -/
def magnitude (l : NumberLayout) (m : Nat) (k : Int) : List Char :=
  if m = 0 then "0.0".toList
  else
    let d := Binary64.shortest m k
    let ds := Nat.toDigits 10 d.digits
    let exponent : Int := d.exponent + ds.length - 1
    if l.leastPositional ≤ exponent ∧ exponent < l.leastScientific then
      positional ds (exponent + 1)
    else scientific l ds exponent

/-- The text of a floating-point number. -/
def text (l : NumberLayout) : Binary64 → List Char
  | .nan => l.nanName.toList
  | .infinite negative => (if negative then ['-'] else []) ++ l.infinityName.toList
  | .finite negative m k => (if negative then ['-'] else []) ++ magnitude l m k

end NumberLayout

end RequestAtlas
