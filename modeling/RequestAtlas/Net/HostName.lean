import RequestAtlas.Net.Label.Basic
import RequestAtlas.Text.Punycode

/-!
# Host names in ASCII

The name of a host may use letters of any script; on the wire it is ASCII. A label
of other letters is sent in its written form behind a mark of its own, and a label
that begins with that mark must be such a written form.
-/

namespace RequestAtlas.Net.HostName

/-- What a label in written form begins with. -/
def writtenMark : List Char := ['x', 'n', '-', '-']

/-- The most characters of a label, and of a name without the dot at its end. -/
def maxLabelLength : Nat := 63

/-- The most characters of a name without the dot at its end. -/
def maxLength : Nat := 253

/-- A dot of any script. -/
def isDot (c : Char) : Bool :=
  c == '.' || c == '\u3002' || c == '\uFF0E' || c == '\uFF61'

/-- The labels of a name. -/
def labels : List Char → List (List Char)
  | [] => [[]]
  | c :: s =>
    if isDot c then [] :: labels s
    else match labels s with
      | [] => [[c]]
      | label :: rest => (c :: label) :: rest

/-- Why the text behind the mark of a written form is not the written form of a
label. -/
def writtenFlaw? (written : List Char) : Option Label.Flaw :=
  if written.isEmpty then some .nothingWritten
  else if written.getLast? = some '-' then some .hyphenAtEnd
  else
    match Text.Punycode.decode? written with
    | none => some .unreadable
    | some label =>
      (Label.flaw? label).or <|
        if Text.Punycode.hasNeedlessHyphen written then some .unreadable else none

/-- Why an ASCII text is neither a label nor the written form of one. -/
def asciiFlaw? (s : List Char) : Option Label.Flaw :=
  match Text.afterStart? writtenMark s with
  | some written => writtenFlaw? written
  | none => Label.flaw? (s.map Char.toNat)

/-- A label in ASCII, unless it is none or too long. -/
def asciiLabel? (s : List Char) : Option (List Char) :=
  if maxLabelLength < s.length then none
  else if s.all Text.isAscii then
    if (asciiFlaw? s).isNone then some s else none
  else if (Label.flaw? (s.map Char.toNat)).isNone then
    some (writtenMark ++ Text.Punycode.encode s) |>.filter (·.length ≤ maxLabelLength)
  else none

/-- The labels of a name, and whether it ends in a dot. The empty text behind a dot
at its end is no label. -/
def labelsAndEnd (s : List Char) : List (List Char) × Bool :=
  let all := labels s
  if all.getLast? = some [] then (all.dropLast, true) else (all, false)

/-- A name in ASCII, unless one of its labels is refused or it is too long. The last
label may be empty. -/
def ascii? (s : List Char) : Option (List Char) :=
  let (front, endsInDot) := labelsAndEnd s
  (front.mapM asciiLabel?).bind fun front =>
    let name := Text.join ['.'] front
    if front.isEmpty || maxLength < name.length then none
    else some (if endsInDot then name ++ ['.'] else name)

/-- Why a name in ASCII cannot be read back. Only a name that begins with a label in
written form is read. -/
def readFlaw? (s : List Char) : Option Label.Flaw :=
  if !Text.startsWith writtenMark s then none
  else if maxLength + 1 < s.length then some .longName
  else (labelsAndEnd s).1.findSome? asciiFlaw?

end RequestAtlas.Net.HostName
