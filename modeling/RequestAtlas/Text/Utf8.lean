/-!
# UTF-8

Characters as octets, octets as natural numbers. Reading never fails: where the
octets break the rules, the replacement character stands for the longest run
that could still have become a character, and reading goes on behind it.
-/

namespace RequestAtlas.Text

/-- The octets of a character. -/
def octets (c : Char) : List Nat :=
  let n := c.toNat
  if n < 0x80 then [n]
  else if n < 0x800 then [0xC0 + n / 0x40, 0x80 + n % 0x40]
  else if n < 0x10000 then [0xE0 + n / 0x1000, 0x80 + n / 0x40 % 0x40, 0x80 + n % 0x40]
  else
    [0xF0 + n / 0x40000, 0x80 + n / 0x1000 % 0x40, 0x80 + n / 0x40 % 0x40, 0x80 + n % 0x40]

/-- A character of which some octets have been read: `owed + 1` more are to
come, the next one between `low` and `high`. -/
structure Pending where
  owed : Nat
  low : Nat
  high : Nat
  code : Nat
  deriving DecidableEq, Repr

/-- What an octet in first place means. -/
inductive FirstOctet where
  | whole (c : Char)
  | opens (p : Pending)
  | invalid
  deriving DecidableEq, Repr

/-- Reads an octet in first place. -/
def firstOctet (b : Nat) : FirstOctet :=
  if b < 0x80 then .whole (Char.ofNat b)
  else if b < 0xC2 then .invalid
  else if b < 0xE0 then .opens ⟨0, 0x80, 0xBF, b - 0xC0⟩
  else if b < 0xF0 then
    .opens ⟨1, if b = 0xE0 then 0xA0 else 0x80, if b = 0xED then 0x9F else 0xBF, b - 0xE0⟩
  else if b < 0xF5 then
    .opens ⟨2, if b = 0xF0 then 0x90 else 0x80, if b = 0xF4 then 0x8F else 0xBF, b - 0xF0⟩
  else .invalid

/-- The character that stands for octets that are none. -/
def replacement : Char := '\uFFFD'

/-- Reads octets with a character pending or none. -/
def decodeOctetsFrom : Option Pending → List Nat → List Char
  | none, [] => []
  | some _, [] => [replacement]
  | none, b :: r =>
    match firstOctet b with
    | .whole c => c :: decodeOctetsFrom none r
    | .opens p => decodeOctetsFrom (some p) r
    | .invalid => replacement :: decodeOctetsFrom none r
  | some p, b :: r =>
    if p.low ≤ b ∧ b ≤ p.high then
      let code := p.code * 0x40 + (b - 0x80)
      match p.owed with
      | 0 => Char.ofNat code :: decodeOctetsFrom none r
      | owed + 1 => decodeOctetsFrom (some ⟨owed, 0x80, 0xBF, code⟩) r
    else
      replacement :: match firstOctet b with
        | .whole c => c :: decodeOctetsFrom none r
        | .opens p => decodeOctetsFrom (some p) r
        | .invalid => replacement :: decodeOctetsFrom none r

/-- The text of a list of octets. -/
def decodeOctets (bs : List Nat) : List Char :=
  decodeOctetsFrom none bs

end RequestAtlas.Text
