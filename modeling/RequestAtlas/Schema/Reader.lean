import RequestAtlas.Schema.Line
import RequestAtlas.Schema.Reference
import RequestAtlas.Text.Blank

/-!
# Reading a schema text

The text is read line by line. Between two lines the reader is inside a table or
outside every table, and either way the brace of an earlier header may still be
awaited. A line moves the reader to its next place and closes at most one table.
A table that is never closed is dropped, and a line that makes no sense is passed
over, so every text has a schema.

A header without brace waits for a line that begins with one. The wait lasts
over tables in between; the first line outside every table that is neither a
brace nor a header ends it.

References are looked for in every line, wherever the reader is.
-/

namespace RequestAtlas.Schema

/-- Where the reader stands between two lines. -/
inductive Place where
  /-- Outside every table. `awaited` is the name of the header whose brace has
  not come. -/
  | outside (awaited : Option (List Char))
  /-- Inside a table of which `columns` have been read. -/
  | inside (awaited : Option (List Char)) (name : List Char) (columns : List Column)
  deriving DecidableEq, Repr

/-- The place in front of a text. -/
def Place.start : Place := .outside none

/-- Reads a piece of a table's body. A closing brace ends the table, and what
stands in front of it is still a column. -/
def readBody (awaited : Option (List Char)) (name : List Char) (columns : List Column)
    (piece : List Char) : Place × Option Table :=
  if Text.startsWith Column.commentMark piece then (.inside awaited name columns, none)
  else if piece.contains '\x7d' then
    let last := Column.read? (piece.takeWhile (· != '\x7d'))
    (.outside awaited, some ⟨String.ofList name, columns ++ last.toList⟩)
  else (.inside awaited name (columns ++ (Column.read? piece).toList), none)

/-- Reads a trimmed line outside every table that opens no awaited one. -/
def readOutside (awaited : Option (List Char)) (line : List Char) : Place × Option Table :=
  match readHeader? line with
  | none => (.outside none, none)
  | some (name, []) => (.outside (some (Text.dropEndWhile (· == '\x7b') name)), none)
  | some (name, _ :: rest) => readBody awaited name [] rest

/-- The place behind a line, and the table that the line closes. -/
def readLine (place : Place) (line : List Char) : Place × Option Table :=
  match place, Text.trim line with
  | .inside awaited name columns, line => readBody awaited name columns line
  | .outside (some name), '\x7b' :: rest => readBody none name [] rest
  | .outside awaited, line => readOutside awaited line

/-- The tables that are closed in a run of lines. -/
def readTables (place : Place) : List (List Char) → List Table
  | [] => []
  | line :: rest =>
    let (next, closed) := readLine place line
    closed.toList ++ readTables next rest

/-- The place behind a run of lines. -/
def placeAfter (place : Place) (ls : List (List Char)) : Place :=
  ls.foldl (fun p line => (readLine p line).1) place

/-- The schema of a text. -/
def read (text : String) : Schema :=
  let ls := Text.lines text.toList
  ⟨readTables .start ls, ls.filterMap Reference.find?⟩

theorem readLine_start (line : List Char) :
    readLine .start line = readOutside none (Text.trim line) := by
  rw [Place.start, readLine]
  intro _ _ _ hawaited
  cases hawaited

theorem readLine_brace {line rest : List Char} (name : List Char)
    (h : Text.trim line = '\x7b' :: rest) :
    readLine (.outside (some name)) line = readBody none name [] rest := by
  rw [readLine.eq_def, h]
  rfl

theorem readTables_cons (place : Place) (line : List Char) (rest : List (List Char)) :
    readTables place (line :: rest) =
      (readLine place line).2.toList ++ readTables (readLine place line).1 rest :=
  rfl

/-- The tables closed in two runs of lines, one behind the other. -/
theorem readTables_append (place : Place) (xs ys : List (List Char)) :
    readTables place (xs ++ ys) =
      readTables place xs ++ readTables (placeAfter place xs) ys := by
  induction xs generalizing place with
  | nil => rfl
  | cons x xs ih => simp [readTables_cons, placeAfter, ih, List.append_assoc]

end RequestAtlas.Schema
