import RequestAtlas.Fault
import RequestAtlas.Json.Shown

/-!
# Flaws of labels

Why a text is no label of a host name. A message shows the label, or the place in
it that is at fault; places count from one.
-/

namespace RequestAtlas.Net.Label

/-- A code point of a label with its place. -/
structure Spot where
  code : Nat
  place : Nat
  deriving DecidableEq, Repr

/-- How the directions in a label do not go together. -/
inductive DirectionFlaw where
  | unknown (place : Nat)
  | start
  | within (leftward : Bool) (place : Nat)
  | digits
  | ending
  deriving DecidableEq, Repr

/-- Why a text is no label. -/
inductive Flaw where
  /-- There is nothing in it. -/
  | empty
  /-- The name that it belongs to is too long. -/
  | longName
  /-- It is not in composed form. -/
  | notComposed
  /-- It has hyphens in the third and in the fourth place. -/
  | innerHyphens
  /-- It begins or ends with a hyphen. -/
  | edgeHyphen
  /-- It begins with a mark. -/
  | initialMark
  /-- No label holds the code point. -/
  | codePoint (spot : Spot) (label : List Nat)
  /-- The code point is a joiner that its surroundings do not take. -/
  | joiner (spot : Spot) (label : List Nat)
  /-- The code point is a joiner, and the one in front of it is not known. -/
  | unknownNeighbour (spot : Spot) (label : List Nat)
  /-- The code point is taken in other surroundings only. -/
  | surroundings (spot : Spot) (label : List Nat)
  /-- Its directions do not go together. -/
  | direction (flaw : DirectionFlaw) (label : List Nat)
  /-- There is nothing behind the mark of a written form. -/
  | nothingWritten
  /-- A written form ends with a hyphen. -/
  | hyphenAtEnd
  /-- It is the written form of nothing. -/
  | unreadable
  deriving DecidableEq, Repr

/-- A code point in a message, between the quotes `quote`. -/
def showCode (quote : Char) (n : Nat) : List Char :=
  if 0xD800 ≤ n ∧ n < 0xE000 then '\\' :: 'u' :: Text.hexPlaces 4 n
  else Json.showChar quote (Char.ofNat n)

/-- A label in a message. -/
def showLabel (s : List Nat) : String :=
  let quote := if s.contains 0x27 && !s.contains 0x22 then '"' else '\''
  String.ofList (quote :: s.flatMap (showCode quote) ++ [quote])

/-- The name of a code point. -/
def codeName (n : Nat) : String :=
  String.ofList ('U' :: '+' :: (Text.hexPlaces 4 n).map Char.toUpper)

/-- What a message says of directions that do not go together. -/
def DirectionFlaw.message (label : List Nat) : DirectionFlaw → String
  | .unknown place =>
    "Unknown directionality in label " ++ showLabel label ++ " at position " ++ toString place
  | .start =>
    "First codepoint in label " ++ showLabel label ++ " must be directionality L, R or AL"
  | .within leftward place =>
    "Invalid direction for codepoint at position " ++ toString place ++ " in a "
      ++ (if leftward then "right-to-left" else "left-to-right") ++ " label"
  | .digits => "Can not mix numeral types in a right-to-left label"
  | .ending => "Label ends with illegal codepoint directionality"

/-- A spot in a message: what is said between the code point and its place. -/
def Spot.shown (what : String) (s : Spot) : String :=
  codeName s.code ++ what ++ " at position " ++ toString s.place

/-- The message of a flaw. -/
def Flaw.message : Flaw → String
  | .empty => "Empty Label"
  | .longName => "Domain too long"
  | .notComposed => "Label must be in Normalization Form C"
  | .innerHyphens => "Label has disallowed hyphens in 3rd and 4th position"
  | .edgeHyphen => "Label must not start or end with a hyphen"
  | .initialMark => "Label begins with an illegal combining character"
  | .codePoint spot label =>
    "Codepoint " ++ spot.shown "" ++ " of " ++ showLabel label ++ " not allowed"
  | .joiner spot label => "Joiner " ++ spot.shown " not allowed" ++ " in " ++ showLabel label
  | .unknownNeighbour spot label =>
    "Unknown codepoint adjacent to joiner " ++ spot.shown "" ++ " in " ++ showLabel label
  | .surroundings spot label =>
    "Codepoint " ++ spot.shown " not allowed" ++ " in " ++ showLabel label
  | .direction flaw label => flaw.message label
  | .nothingWritten => "Malformed A-label, no Punycode eligible content found"
  | .hyphenAtEnd => "A-label must not end with a hyphen"
  | .unreadable => "Invalid A-label"

/-- The fault that a flaw is where a host is read. -/
def Flaw.fault : Flaw → Fault
  | .codePoint _ _ => .refusedCodePoint
  | .joiner _ _ | .surroundings _ _ => .refusedSurroundings
  | .direction _ _ => .mixedDirections
  | _ => .malformedName

end RequestAtlas.Net.Label
