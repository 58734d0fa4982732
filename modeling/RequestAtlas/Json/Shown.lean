import RequestAtlas.Decimal.Layout
import RequestAtlas.Json.Value
import RequestAtlas.Text.Ascii
import RequestAtlas.Text.Printable

/-!
# Values in messages

How a value is shown to people when it stands in a message: names with a capital
letter, strings in single quotes where that needs no escape, and characters that
cannot be printed by their number.
-/

namespace RequestAtlas.Json

/-- A character of a string shown between the quotes `quote`. -/
def showChar (quote c : Char) : List Char :=
  if c = quote ∨ c = '\\' then ['\\', c]
  else if c = '\n' then ['\\', 'n']
  else if c = '\r' then ['\\', 'r']
  else if c = '\t' then ['\\', 't']
  else if Text.isPrintable c then [c]
  else Text.numbered c

/-- A string in quotes: single ones, unless it holds one and no double quote. -/
def showString (s : String) : List Char :=
  let cs := s.toList
  let quote := if cs.contains '\'' && !cs.contains '"' then '"' else '\''
  quote :: cs.flatMap (showChar quote) ++ [quote]

/-- Pieces between brackets with commas between them. -/
def showPieces (opening closing : Char) (pieces : List (List Char)) : List Char :=
  opening :: [',', ' '].intercalate pieces ++ [closing]

mutual

/-- A value as it is shown. -/
def showValue : Json → List Char
  | .null => ['N', 'o', 'n', 'e']
  | .bool true => ['T', 'r', 'u', 'e']
  | .bool false => ['F', 'a', 'l', 's', 'e']
  | .int i => Decimal.intDigits i
  | .float x => NumberLayout.message.text x
  | .str s => showString s
  | .arr items => showPieces '[' ']' (showItems items)
  | .obj fields => showPieces '\x7b' '\x7d' (showFields fields)

/-- The items of an array as they are shown. -/
def showItems : List Json → List (List Char)
  | [] => []
  | item :: items => showValue item :: showItems items

/-- The fields of an object as they are shown. -/
def showFields : List (String × Json) → List (List Char)
  | [] => []
  | (key, value) :: fields =>
    (showString key ++ ':' :: ' ' :: showValue value) :: showFields fields

end

/-- A value in a message: a string as it is, anything else as it is shown. -/
def shown : Json → String
  | .str s => s
  | v => String.ofList (showValue v)

end RequestAtlas.Json
