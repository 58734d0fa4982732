/-!
# Blank characters and lines

The one class of white space that every reader of this library uses, the cuts
that are made at it, and the lines of a text. Text is handled as `List Char`, so
that a reader is a function from a list to what it found and the list that is
left.
-/

namespace RequestAtlas.Text

/-- White space: the ASCII controls that move the cursor, the four ASCII
separators, and the space, line and paragraph separators of Unicode. The
zero-width characters are not blank. -/
def isBlank (c : Char) : Bool :=
  let n := c.toNat
  (9 ≤ n && n ≤ 13) || (28 ≤ n && n ≤ 32) || n == 0x85 || n == 0xA0 || n == 0x1680
    || (0x2000 ≤ n && n ≤ 0x200A) || n == 0x2028 || n == 0x2029 || n == 0x202F
    || n == 0x205F || n == 0x3000

/-- Drops from the end every character for which `p` holds. -/
def dropEndWhile (p : Char → Bool) (s : List Char) : List Char :=
  (s.reverse.dropWhile p).reverse

/-- Drops blank characters from the start. -/
def trimStart (s : List Char) : List Char :=
  s.dropWhile isBlank

/-- Drops blank characters from the end. -/
def trimEnd (s : List Char) : List Char :=
  dropEndWhile isBlank s

/-- Drops blank characters from both ends. -/
def trim (s : List Char) : List Char :=
  trimEnd (trimStart s)

/-- The first word of `s` and what follows the blanks behind it. -/
def cutWord (s : List Char) : List Char × List Char :=
  (s.takeWhile (!isBlank ·), trimStart (s.dropWhile (!isBlank ·)))

/-- `trim` on strings. -/
def trimString (s : String) : String :=
  String.ofList (trim s.toList)

/-- Drops every slash at the end of a string. -/
def dropEndSlashes (s : String) : String :=
  String.ofList (dropEndWhile (· == '/') s.toList)

/-! ## Lines

A text is cut at every line break of Unicode: line feed, carriage return, the
pair of both, vertical tab, form feed, the three ASCII separators above unit
separator, next line, and the line and paragraph separators. A break ends a
line, so a break at the very end opens no further line. -/

/-- A character that ends a line. -/
def isLineBreak (c : Char) : Bool :=
  let n := c.toNat
  (10 ≤ n && n ≤ 13) || (28 ≤ n && n ≤ 30) || n == 0x85 || n == 0x2028 || n == 0x2029

/-- Puts `c` in front of the first line. -/
def consHead (c : Char) : List (List Char) → List (List Char)
  | [] => [[c]]
  | l :: ls => (c :: l) :: ls

/-- The lines of a text without their breaks. -/
def lines : List Char → List (List Char)
  | [] => []
  | '\r' :: '\n' :: r => [] :: lines r
  | c :: r => if isLineBreak c then [] :: lines r else consHead c (lines r)

end RequestAtlas.Text
