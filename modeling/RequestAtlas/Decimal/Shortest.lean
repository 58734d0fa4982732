import RequestAtlas.Decimal.Binary64

/-!
# The shortest decimal that reads back

A floating-point number is written with the fewest significant digits that
still name it and no other number; among the decimals of that length the
nearest one is taken. The search goes over the lengths 1, 2, … 17. On the grid
of each length only the two neighbours of the number can be the answer, and
exact integers decide whether a neighbour still rounds to the number.
-/

namespace RequestAtlas.Binary64

/-- A decimal `digits · 10 ^ exponent`. -/
structure Decimal where
  digits : Nat
  exponent : Int
  deriving DecidableEq, Repr

/-- The bounds of the numbers that round to `mantissa · 2 ^ scale`, in units of
a quarter of the mantissa's last place: below a power of two the spacing
halves. -/
def roundingBounds (mantissa : Nat) (scale : Int) : Nat × Nat :=
  let low :=
    if mantissa = Nat.pow 2 52 ∧ minScale < scale then 4 * mantissa - 1 else 4 * mantissa - 2
  (low, 4 * mantissa + 2)

/-- Compares `d · 10 ^ e` with `n · 2 ^ k`. -/
def compareScaled (d : Nat) (e : Int) (n : Nat) (k : Int) : Ordering :=
  let left := d * Nat.pow 10 e.toNat * Nat.pow 2 (-k).toNat
  let right := n * Nat.pow 2 k.toNat * Nat.pow 10 (-e).toNat
  compare left right

/-- Whether `d · 10 ^ e` rounds to `mantissa · 2 ^ scale`. The bounds
themselves round to an even mantissa. -/
def roundsTo (mantissa : Nat) (scale : Int) (d : Nat) (e : Int) : Bool :=
  let (low, high) := roundingBounds mantissa scale
  let above := compareScaled d e low (scale - 2)
  let below := compareScaled d e high (scale - 2)
  (above == .gt || (above == .eq && mantissa % 2 == 0))
    && (below == .lt || (below == .eq && mantissa % 2 == 0))

/-- The greatest natural number not above `m · 2 ^ k / 10 ^ e`, and how twice
the rest compares with one. -/
def floorOnGrid (m : Nat) (k e : Int) : Nat × Ordering :=
  let num := m * Nat.pow 2 k.toNat * Nat.pow 10 (-e).toNat
  let den := Nat.pow 2 (-k).toNat * Nat.pow 10 e.toNat
  (num / den, compare (2 * (num % den)) den)

/-- The decimal with exponent `e` that names the number, if one does: of the
two neighbours the nearer, of two equally near ones the even one. -/
def onGrid? (m : Nat) (k e : Int) : Option Decimal :=
  let (d, rest) := floorOnGrid m k e
  let nearer := match rest with
    | .lt => d
    | .gt => d + 1
    | .eq => d + d % 2
  let other := if nearer = d then d + 1 else d
  if roundsTo m k nearer e then some ⟨nearer, e⟩
  else if roundsTo m k other e then some ⟨other, e⟩
  else none

/-- The exponent `e` with `10 ^ (e - 1) ≤ m · 2 ^ k < 10 ^ e`, or one less,
from the length in bits. -/
def decimalSize (m : Nat) (k : Int) : Int :=
  ((m.log2 : Int) + k) * 30103 / 100000 + 1

/-- Drops trailing zeros from the digits. -/
def Decimal.stripped (d : Decimal) : Decimal :=
  if h : d.digits ≠ 0 ∧ d.digits % 10 = 0 then
    Decimal.stripped ⟨d.digits / 10, d.exponent + 1⟩
  else d
termination_by d.digits
decreasing_by omega

/-- The shortest decimal that rounds to the positive number `m · 2 ^ k`. -/
def shortest (m : Nat) (k : Int) : Decimal :=
  let size := decimalSize m k + 1
  let grids := (List.range 19).map fun (n : Nat) => size - (n : Int)
  ((grids.findSome? (onGrid? m k)).getD ⟨m, 0⟩).stripped

end RequestAtlas.Binary64
