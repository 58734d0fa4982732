import RequestAtlas.Schema.Basic
import RequestAtlas.Text.Blank
import RequestAtlas.Text.Search

/-!
# The lines of a table

What a line of a schema text says about a table: that it begins, by a header, or
that it has a column.

A header is the word `Table`, blanks, a name, and then nothing or the opening
brace with whatever stands behind it on the line. The name is the shortest one
that leaves such a rest, so a brace glued to the name ends it. Only a brace in
first place belongs to the name.

A column line is a name and, behind blanks, a type. Comments and notes are no
columns.
-/

namespace RequestAtlas

/-! ## Headers -/

namespace Schema

/-- The word that opens a header. -/
def headerWord : List Char := ['T', 'a', 'b', 'l', 'e']

/-- Whether a character can stand in a name behind its first character. -/
def continuesName (c : Char) : Bool :=
  !Text.isBlank c && c != '\x7b'

/-- The name at the start of `s` and the rest of the line behind the blanks that
follow it. -/
def readName? : List Char → Option (List Char × List Char)
  | [] => none
  | c :: r =>
    let name := c :: r.takeWhile continuesName
    match Text.trimStart (r.dropWhile continuesName) with
    | [] => some (name, [])
    | '\x7b' :: rest => some (name, '\x7b' :: rest)
    | _ => none

/-- The name in a header line, and the rest of the line from the opening brace
on; the rest is empty when the line has no brace. -/
def readHeader? (line : List Char) : Option (List Char × List Char) :=
  match Text.afterStart? headerWord line with
  | some (c :: r) => if Text.isBlank c then readName? (Text.trimStart r) else none
  | _ => none

end Schema

/-! ## Columns -/

namespace Column

/-- What a comment starts with. -/
def commentMark : List Char := ['/', '/']

/-- What a note starts with. -/
def noteMark : List Char := ['N', 'o', 't', 'e']

/-- The column that a piece of a table's body declares, if it declares one. -/
def read? (piece : List Char) : Option Column :=
  let line := Text.trim piece
  if line.isEmpty || Text.startsWith commentMark line || Text.startsWith noteMark line then
    none
  else
    let (name, type) := Text.cutWord line
    some ⟨String.ofList name, if type.isEmpty then defaultType else String.ofList type⟩

end Column

end RequestAtlas
