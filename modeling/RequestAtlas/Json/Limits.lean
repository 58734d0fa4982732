import RequestAtlas.Fault
import RequestAtlas.Json.Value
import RequestAtlas.Text.Numeral

/-!
# Limits

What is read and what is written stays within limits: an integer has so many digits
at most, and values stand one inside the other only as far as there is room. The
printers write everything; whether a value is within the limits of a writer is said
apart from its text.
-/

namespace RequestAtlas.Json

/-- The values that hold others. -/
inductive Container where
  | array
  | object
  deriving DecidableEq, Repr

/-- The name of a container. -/
def Container.name : Container → String
  | .array => "array"
  | .object => "object"

/-- What is taken at most: digits of an integer, and values one inside the other. -/
structure Limits where
  digits : Option Nat := none
  depth : Option Nat := none
  deriving DecidableEq, Repr

/-- The limits inside a container, when there is room for one. -/
def Limits.inner? (limits : Limits) : Option Limits :=
  match limits.depth with
  | none => some limits
  | some 0 => none
  | some (depth + 1) => some { limits with depth := some depth }

/-- How deep values from outside may be nested. The format does not say: it depends on
the machine, and on how much of it is taken up when a document comes. -/
class OuterDepth where
  depth : Nat

/-- The depth that is there when nothing else is said. -/
instance : OuterDepth where
  depth := 970

/-- What is taken at most from outside. -/
def outerLimits [OuterDepth] : Limits where
  digits := some Text.maxDigits
  depth := some OuterDepth.depth

/-! ## Writing -/

/-- The message when there is no room to write a value. -/
def noRoom : String := "maximum recursion depth exceeded"

mutual

/-- The fault of writing a value within limits, if it is one. It is the one that comes
first in the text of the value. -/
def overrun? : (limits : Limits) → Json → Option Fault
  | limits, .int i =>
    if limits.digits.any (· < (Nat.toDigits 10 i.natAbs).length) then some .longInteger else none
  | limits, .arr items =>
    match limits.inner? with
    | none => some (.tooDeep noRoom)
    | some inner => overrunOfItems? inner items
  | limits, .obj fields =>
    match limits.inner? with
    | none => some (.tooDeep noRoom)
    | some inner => overrunOfFields? inner fields
  | _, _ => none

/-- The fault of writing the items of an array. -/
def overrunOfItems? : (limits : Limits) → List Json → Option Fault
  | _, [] => none
  | limits, item :: items => (overrun? limits item).or (overrunOfItems? limits items)

/-- The fault of writing the fields of an object. -/
def overrunOfFields? : (limits : Limits) → List (String × Json) → Option Fault
  | _, [] => none
  | limits, (_, value) :: fields => (overrun? limits value).or (overrunOfFields? limits fields)

end

end RequestAtlas.Json
