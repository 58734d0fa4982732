import RequestAtlas.Text.Blank

/-!
# Numerals

Whole numbers as people write them: a sign perhaps, then digits of any script,
with single underscores between digits where that helps the eye. There is a bound
on the digits that are taken.
-/

namespace RequestAtlas.Text

/-- The zeros of the scripts that have decimal digits. The digits of a script
follow its zero. -/
def scriptZeros : List Nat :=
  [0x30, 0x660, 0x6F0, 0x7C0, 0x966, 0x9E6, 0xA66, 0xAE6, 0xB66, 0xBE6, 0xC66, 0xCE6, 0xD66,
   0xDE6, 0xE50, 0xED0, 0xF20, 0x1040, 0x1090, 0x17E0, 0x1810, 0x1946, 0x19D0, 0x1A80, 0x1A90,
   0x1B50, 0x1BB0, 0x1C40, 0x1C50, 0xA620, 0xA8D0, 0xA900, 0xA9D0, 0xA9F0, 0xAA50, 0xABF0,
   0xFF10, 0x104A0, 0x10D30, 0x11066, 0x110F0, 0x11136, 0x111D0, 0x112F0, 0x11450, 0x114D0,
   0x11650, 0x116C0, 0x11730, 0x118E0, 0x11950, 0x11C50, 0x11D50, 0x11DA0, 0x16A60, 0x16AC0,
   0x16B50, 0x1D7CE, 0x1D7D8, 0x1D7E2, 0x1D7EC, 0x1D7F6, 0x1E140, 0x1E2F0, 0x1E950, 0x1FBF0]

/-- The value of a digit of any script. -/
def digitValue? (c : Char) : Option Nat :=
  (scriptZeros.find? fun z => z ≤ c.toNat && c.toNat < z + 10).map (c.toNat - ·)

/-- The digits of a text in which single underscores may stand between digits;
`behindDigit` says whether a digit has just been read. -/
def groupedDigits? : (behindDigit : Bool) → List Char → Option (List Nat)
  | behindDigit, [] => if behindDigit then some [] else none
  | behindDigit, c :: r =>
    match digitValue? c with
    | some d => (groupedDigits? true r).map (d :: ·)
    | none => if c = '_' ∧ behindDigit then groupedDigits? false r else none

/-- The number that digits say, the first of them the greatest. -/
def ofDigits (ds : List Nat) : Nat :=
  ds.foldl (fun n d => 10 * n + d) 0

/-- The most digits that a number may have. -/
def maxDigits : Nat := 4300

/-- The integer a numeral says. -/
def integer? (s : List Char) : Option Int :=
  let (negative, r) := match trim s with
    | '-' :: r => (true, r)
    | '+' :: r => (false, r)
    | r => (false, r)
  (groupedDigits? false r).bind fun ds =>
    if maxDigits < ds.length then none
    else
      let n : Int := ofDigits ds
      some (if negative then -n else n)

end RequestAtlas.Text
