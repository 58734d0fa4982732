import RequestAtlas.Decimal.Layout
import RequestAtlas.Json.Value

/-!
# Writing JSON

One printer with two styles. In the indented style every item stands on a line
of its own, two spaces deeper than its container; in the compact style nothing
is written that a reader would skip. Text is written as it is, but for the
quote, the backslash and the control characters.

The printer has a text for every value. Whether there is room to write it is not
its concern: that is `overrun?`, which whoever hands on a text asks for as well.
-/

namespace RequestAtlas.Json

/-- How the parts of a document are set apart. -/
structure Style where
  /-- What stands before an item, or a closing bracket, at the given depth. -/
  gap : Nat → List Char
  /-- What stands between a key and its value. -/
  colon : List Char
  numbers : NumberLayout

/-- A line for every item, indented by two spaces for each level. -/
def Style.indented : Style where
  gap depth := '\n' :: List.replicate (2 * depth) ' '
  colon := [':', ' ']
  numbers := .plain

/-- Everything on one line without space. -/
def Style.compact : Style where
  gap _ := []
  colon := [':']
  numbers := .plain

/-- A character inside a text. -/
def escape (c : Char) : List Char :=
  if c = '"' then ['\\', '"']
  else if c = '\\' then ['\\', '\\']
  else if c = '\n' then ['\\', 'n']
  else if c = '\r' then ['\\', 'r']
  else if c = '\t' then ['\\', 't']
  else if c = '\x08' then ['\\', 'b']
  else if c = '\x0C' then ['\\', 'f']
  else if c.toNat < 0x20 then
    ['\\', 'u', '0', '0', Nat.digitChar (c.toNat / 16), Nat.digitChar (c.toNat % 16)]
  else [c]

/-- A text in quotes. -/
def quoted (s : String) : List Char :=
  '"' :: s.toList.flatMap escape ++ ['"']

/-- The pieces of a container at `depth` between its brackets; a container
without pieces is its two brackets. -/
def enclosed (st : Style) (depth : Nat) (opening closing : Char) :
    List (List Char) → List Char
  | [] => [opening, closing]
  | piece :: pieces =>
    opening :: st.gap (depth + 1) ++ piece
      ++ pieces.flatMap (fun p => ',' :: st.gap (depth + 1) ++ p)
      ++ st.gap depth ++ [closing]

mutual

/-- The text of a value that stands at `depth`. -/
def print (st : Style) (depth : Nat) : Json → List Char
  | .null => ['n', 'u', 'l', 'l']
  | .bool true => ['t', 'r', 'u', 'e']
  | .bool false => ['f', 'a', 'l', 's', 'e']
  | .int i => Decimal.intDigits i
  | .float x => st.numbers.text x
  | .str s => quoted s
  | .arr items => enclosed st depth '[' ']' (printItems st (depth + 1) items)
  | .obj fields => enclosed st depth '\x7b' '\x7d' (printFields st (depth + 1) fields)

/-- The texts of the items of an array. -/
def printItems (st : Style) (depth : Nat) : List Json → List (List Char)
  | [] => []
  | item :: items => print st depth item :: printItems st depth items

/-- The texts of the fields of an object. -/
def printFields (st : Style) (depth : Nat) : List (String × Json) → List (List Char)
  | [] => []
  | (key, value) :: fields =>
    (quoted key ++ st.colon ++ print st depth value) :: printFields st depth fields

end

/-- The indented text of a value, however deep it is and however long its integers. -/
def indented (v : Json) : String :=
  String.ofList (print .indented 0 v)

/-- The text of a value on one line. -/
def compact (v : Json) : String :=
  String.ofList (print .compact 0 v)

end RequestAtlas.Json
