import RequestAtlas.Check.Basic
import RequestAtlas.Text.Numeral
import RequestAtlas.Text.Search

/-!
# Checked scalars

Strings are taken as they are. Truth values and integers are taken in every form
that says one without loss: a truth value also as zero and one or as one of the
usual words, an integer also as a truth value, a whole number or its digits.
-/

namespace RequestAtlas.Check

/-- A string. -/
def string : Json → Checked String
  | .str s => .valid s
  | _ => .fail .stringType

/-- A string that is not empty. -/
def nonEmptyString : Json → Checked String
  | .str s => if s.isEmpty then .fail .stringTooShort else .valid s
  | _ => .fail .stringType

/-- An object whose fields are free. -/
def freeObject : Json → Checked Json.Fields
  | .obj fields => .valid fields
  | _ => .fail .objectType

/-- The words for true. -/
def trueWords : List String := ["1", "on", "t", "true", "y", "yes"]

/-- The words for false. -/
def falseWords : List String := ["0", "off", "f", "false", "n", "no"]

/-- The truth value a word says, the case of its letters aside. -/
def boolWord (s : String) : Checked Bool :=
  let word := String.ofList (s.toList.map Char.toLower)
  if trueWords.contains word then .valid true
  else if falseWords.contains word then .valid false
  else .fail .boolParsing

/-- The bound on the size of whole numbers that machine words hold: the 63rd
power of two. -/
def wholeBound : Int := 9223372036854775808

/-- Whether a whole number lies strictly between the bounds. -/
def isBounded (i : Int) : Bool := -wholeBound < i && i < wholeBound

/-- The truth value a number says. -/
def boolNumber (i : Int) : Checked Bool :=
  if i = 0 then .valid false else if i = 1 then .valid true else .fail .boolParsing

/-- A truth value. A number that no machine word holds is of the wrong type; any
other but zero and one is of the right type and says nothing. -/
def bool : Json → Checked Bool
  | .bool b => .valid b
  | .int i => if -wholeBound ≤ i ∧ i < wholeBound then boolNumber i else .fail .boolType
  | .float x =>
    match x.toInt?.filter isBounded with
    | some i => boolNumber i
    | none => .fail .boolType
  | .str s => boolWord s
  | _ => .fail .boolType

/-- A blank at the edge of an integer: white space, the ASCII separators
excepted. -/
def isEdgeBlank (c : Char) : Bool :=
  Text.isBlank c && !(28 ≤ c.toNat && c.toNat ≤ 31)

/-- Why a text says no integer. -/
inductive IntTextFault where
  /-- It is not the text of an integer. -/
  | malformed
  /-- It has more digits than are taken. -/
  | tooLong
  deriving DecidableEq, Repr

/-- The number that plain digits say, with no zero in front of another digit. Once
there are too many digits, it does not count what stands behind them. -/
def plainNat (s : List Char) : Except IntTextFault Nat :=
  let digits := s.takeWhile Char.isDigit
  if s.head? = some '0' then if s.length = 1 then .ok 0 else .error .malformed
  else if Text.maxDigits < digits.length then .error .tooLong
  else if digits.isEmpty || digits.length < s.length then .error .malformed
  else .ok (Nat.ofDigitChars 10 digits 0)

/-- The integer that plain digits say, with a minus sign in front perhaps. -/
def plainInt : List Char → Except IntTextFault Int
  | '-' :: r => (plainNat r).map fun n => -(n : Int)
  | r => (plainNat r).map fun n => (n : Int)

/-- The text of a number without its leading zeros, which underscores may part in
any way. A zero with nothing of the number behind it stays. -/
def withoutLeadingZeros (s : List Char) : List Char :=
  if s.head? = some '0' then
    let zeros := s.takeWhile fun c => c == '0' || c == '_'
    let rest := s.dropWhile fun c => c == '0' || c == '_'
    if rest.isEmpty || rest.head? = some '.' then zeros.drop (zeros.length - 1) ++ rest
    else rest
  else s

/-- The text of a number without a point that has nothing but zeros behind it. -/
def withoutZeroPlaces (s : List Char) : List Char :=
  let places := (s.dropWhile (· != '.')).drop 1
  if !places.isEmpty && places.all (· == '0') then s.takeWhile (· != '.') else s

/-- The text of a number without its underscores, if they stand inside and one by
one. -/
def withoutUnderscores (s : List Char) : List Char :=
  if s.head? = some '_' || s.getLast? = some '_' || Text.contains ['_', '_'] s then s
  else s.filter (· != '_')

/-- The plain text of a number: without blanks around it, a plus sign, leading zeros,
zero places and underscores. A minus sign stays, and one may also stand behind
leading zeros. -/
def plainText (s : List Char) : List Char :=
  let plain (r : List Char) : List Char :=
    withoutUnderscores (withoutZeroPlaces (withoutLeadingZeros r))
  match Text.dropEndWhile isEdgeBlank (s.dropWhile isEdgeBlank) with
  | '+' :: '-' :: r => '+' :: '-' :: r
  | '+' :: r => plain r
  | '-' :: r => '-' :: plain r
  | r => plain r

/-- The integer a text says: as it is, or else by its plain text. Only a text that is
too long as it is counts as such. -/
def intText (s : List Char) : Except IntTextFault Int :=
  match plainInt s with
  | .error .malformed => (plainInt (plainText s)).mapError fun _ => .malformed
  | r => r

/-- An integer. -/
def int : Json → Checked Int
  | .bool b => .valid (if b then 1 else 0)
  | .int i => .valid i
  | .float x =>
    if x.isFinite then
      match x.toInt? with
      | some i => if isBounded i then .valid i else .fail .intParsingSize
      | none => .fail .intFromFloat
    else .fail .finiteNumber
  | .str s =>
    match intText s.toList with
    | .ok i => .valid i
    | .error .malformed => .fail .intParsing
    | .error .tooLong => .fail .intParsingSize
  | _ => .fail .intType

end RequestAtlas.Check
