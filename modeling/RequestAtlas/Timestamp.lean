import RequestAtlas.Decimal.Layout

/-!
# Moments in time

A moment of universal time and its text with milliseconds. What lies below a
millisecond is cut off, never rounded.
-/

namespace RequestAtlas

/-- A moment of universal time. -/
structure Timestamp where
  year : Nat
  month : Nat
  day : Nat
  hour : Nat
  minute : Nat
  second : Nat
  microsecond : Nat
  deriving DecidableEq, Repr, Inhabited

namespace Timestamp

/-- The text `YYYY-MM-DDTHH:MM:SS.mmmZ`. -/
def text (t : Timestamp) : String :=
  let two := Decimal.padded 2
  String.ofList <|
    Decimal.padded 4 t.year ++ '-' :: two t.month ++ '-' :: two t.day
      ++ 'T' :: two t.hour ++ ':' :: two t.minute ++ ':' :: two t.second
      ++ '.' :: Decimal.padded 3 (t.microsecond / 1000) ++ ['Z']

end Timestamp

end RequestAtlas
