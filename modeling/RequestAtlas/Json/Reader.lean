import RequestAtlas.Json.Limits
import RequestAtlas.Text.Encoding

/-!
# Reading JSON

A document is one value with space around it. A failed reading names the first
place at which no value can be completed and what was expected there, so two
readers of the same text agree on the message as well.

Besides the standard the names `NaN`, `Infinity` and `-Infinity` are numbers,
and half of a surrogate pair may stand alone in a text. What is read is made of
Unicode scalar values all the same: the replacement character takes its place.

Every reader takes the text that is left and returns what it read with the text
that is left then. A fault is reported by the text left at the faulty place,
which `readWhole` turns into a line and a column.
-/

namespace RequestAtlas.Json

/-- What is wrong at the place of a fault. -/
inductive Flaw where
  | expectedValue
  | expectedKey
  | expectedColon
  | expectedComma
  | unterminatedText
  | controlCharacter
  | unknownEscape
  | unicodeEscape
  | extraData
  | byteOrderMark
  deriving DecidableEq, Repr

/-- The wording of a flaw. -/
def Flaw.wording : Flaw → String
  | .expectedValue => "Expecting value"
  | .expectedKey => "Expecting property name enclosed in double quotes"
  | .expectedColon => "Expecting ':' delimiter"
  | .expectedComma => "Expecting ',' delimiter"
  | .unterminatedText => "Unterminated string starting at"
  | .controlCharacter => "Invalid control character at"
  | .unknownEscape => "Invalid \\escape"
  | .unicodeEscape => "Invalid \\uXXXX escape"
  | .extraData => "Extra data"
  | .byteOrderMark => "Unexpected UTF-8 BOM (decode using utf-8-sig)"

/-- A place in a text: how many characters are in front of it, and its line and
column, which are counted from one. -/
structure Place where
  offset : Nat
  line : Nat
  column : Nat
  deriving DecidableEq, Repr

/-- The place at an offset of a text. -/
def Place.at (text : List Char) (offset : Nat) : Place :=
  let before := text.take offset
  { offset
    line := before.count '\n' + 1
    column := (before.reverse.takeWhile (· != '\n')).length + 1 }

/-- Why a document could not be read: it is malformed at some place, it holds an
integer with more digits than the reader takes or values nested deeper than it
goes, or its octets are no text. -/
inductive ReadError where
  | malformed (flaw : Flaw) (place : Place)
  | longInteger (digits : Nat)
  | tooDeep (container : Container)
  | noText (flaw : Text.EncodingFlaw)
  deriving DecidableEq, Repr

/-- Why a reader stopped, with the text left at the place of the flaw. -/
inductive Stop where
  | malformed (flaw : Flaw) (left : List Char)
  | longInteger (digits : Nat)
  | tooDeep (container : Container)

/-- The limits inside a container. -/
def Limits.inside (limits : Limits) (container : Container) : Except Stop Limits :=
  match limits.inner? with
  | none => .error (.tooDeep container)
  | some inner => .ok inner

/-- Stops at the text `left`. -/
def stop {α : Type} (flaw : Flaw) (left : List Char) : Except Stop α :=
  .error (.malformed flaw left)

/-- The space of JSON. -/
def isSpace (c : Char) : Bool :=
  c == ' ' || c == '\t' || c == '\n' || c == '\r'

/-- Drops space from the start. -/
def skipSpace (s : List Char) : List Char :=
  s.dropWhile isSpace

/-- The code unit that four hexadecimal digits at the start of the text give,
when a further character follows them. -/
def codeUnit? : List Char → Option Nat
  | a :: b :: c :: d :: _ :: _ => do
    let a ← Text.hexValue? a
    let b ← Text.hexValue? b
    let c ← Text.hexValue? c
    let d ← Text.hexValue? d
    return ((a * 16 + b) * 16 + c) * 16 + d
  | _ => none

/-- The character a numbered escape stands for, and how many characters it
takes, `u` included. A pair of surrogates is one character. -/
def readUnicodeEscape (s : List Char) : Except Stop (Char × Nat) :=
  match codeUnit? (s.drop 1) with
  | none => stop .unicodeEscape s
  | some n =>
    match Text.isHighSurrogate n, s.drop 5 with
    | true, '\\' :: 'u' :: r =>
      if r.length < 5 then .ok (Text.ofCodeUnit n, 5)
      else match codeUnit? r with
        | none => stop .unicodeEscape ('u' :: r)
        | some m =>
          if Text.isLowSurrogate m then .ok (Text.ofSurrogates n m, 11)
          else .ok (Text.ofCodeUnit n, 5)
    | _, _ => .ok (Text.ofCodeUnit n, 5)

/-- The character that the escape after a backslash stands for, and how many
characters the escape takes. `whole` is the text from the backslash on, and
`opening` the text from the opening quote on. -/
def readEscape (opening whole : List Char) : List Char → Except Stop (Char × Nat)
  | [] => stop .unterminatedText opening
  | '"' :: _ => .ok ('"', 1)
  | '\\' :: _ => .ok ('\\', 1)
  | '/' :: _ => .ok ('/', 1)
  | 'b' :: _ => .ok ('\x08', 1)
  | 'f' :: _ => .ok ('\x0C', 1)
  | 'n' :: _ => .ok ('\n', 1)
  | 'r' :: _ => .ok ('\r', 1)
  | 't' :: _ => .ok ('\t', 1)
  | 'u' :: r => readUnicodeEscape ('u' :: r)
  | _ :: _ => stop .unknownEscape whole

/-- Reads the rest of a text up to its closing quote, past the `skip` characters
of an escape that has been read. -/
def readText (opening : List Char) (skip : Nat) : List Char → Except Stop (List Char × List Char)
  | [] => stop .unterminatedText opening
  | c :: r =>
    match skip with
    | k + 1 => readText opening k r
    | 0 =>
      if c = '"' then .ok ([], r)
      else if c = '\\' then do
        let (e, taken) ← readEscape opening (c :: r) r
        let (cs, left) ← readText opening taken r
        return (e :: cs, left)
      else if c.toNat < 0x20 then stop .controlCharacter (c :: r)
      else do
        let (cs, left) ← readText opening 0 r
        return (c :: cs, left)

/-- The digits behind a decimal point, when there are any. -/
def fraction : List Char → List Char × List Char
  | '.' :: c :: r =>
    if c.isDigit then ((c :: r).takeWhile Char.isDigit, (c :: r).dropWhile Char.isDigit)
    else ([], '.' :: c :: r)
  | s => ([], s)

/-- The digits of an exponent with its sign, when there are any. -/
def exponent? (s : List Char) : Option (Int × List Char) :=
  match s with
  | [] => none
  | e :: r =>
    if e = 'e' ∨ e = 'E' then
      let (negative, r) := match r with
        | '-' :: r => (true, r)
        | '+' :: r => (false, r)
        | r => (false, r)
      let ds := r.takeWhile Char.isDigit
      if ds.isEmpty then none
      else
        let n : Int := Nat.ofDigitChars 10 ds 0
        some (if negative then -n else n, r.dropWhile Char.isDigit)
    else none

/-- Reads what follows the whole digits `whole` of a number. A number with a
fraction or an exponent is a floating-point number, any other an integer. -/
def readNumberAfter (limits : Limits) (negative : Bool) (whole s : List Char) :
    Except Stop (Json × List Char) :=
  let (ds, r) := fraction s
  match exponent? r with
  | some (e, r) =>
    .ok (.float (.ofDecimal negative (Nat.ofDigitChars 10 (whole ++ ds) 0) (e - ds.length)), r)
  | none =>
    if ds.isEmpty then
      if limits.digits.any (· < whole.length) then .error (.longInteger whole.length)
      else
        let n : Int := Nat.ofDigitChars 10 whole 0
        .ok (.int (if negative then -n else n), r)
    else
      .ok (.float (.ofDecimal negative (Nat.ofDigitChars 10 (whole ++ ds) 0) (-ds.length)), r)

/-- Reads the digits of a number; `whole` is the text from its start on. -/
def readDigits (limits : Limits) (negative : Bool) (whole : List Char) :
    List Char → Except Stop (Json × List Char)
  | '0' :: r => readNumberAfter limits negative ['0'] r
  | c :: r =>
    if c.isDigit then
      readNumberAfter limits negative ((c :: r).takeWhile Char.isDigit)
        ((c :: r).dropWhile Char.isDigit)
    else stop .expectedValue whole
  | [] => stop .expectedValue whole

/-- Reads a value that holds no other: a name or a number. -/
def readScalar (limits : Limits) : List Char → Except Stop (Json × List Char)
  | 'n' :: 'u' :: 'l' :: 'l' :: r => .ok (.null, r)
  | 't' :: 'r' :: 'u' :: 'e' :: r => .ok (.bool true, r)
  | 'f' :: 'a' :: 'l' :: 's' :: 'e' :: r => .ok (.bool false, r)
  | 'N' :: 'a' :: 'N' :: r => .ok (.float .nan, r)
  | 'I' :: 'n' :: 'f' :: 'i' :: 'n' :: 'i' :: 't' :: 'y' :: r =>
    .ok (.float (.infinite false), r)
  | '-' :: 'I' :: 'n' :: 'f' :: 'i' :: 'n' :: 'i' :: 't' :: 'y' :: r =>
    .ok (.float (.infinite true), r)
  | '-' :: r => readDigits limits true ('-' :: r) r
  | s => readDigits limits false s s

mutual

/-- Reads a value. `fuel` bounds the number of steps; twice the length of the
text is enough. -/
def readValue (limits : Limits) : (fuel : Nat) → List Char → Except Stop (Json × List Char)
  | 0, s => stop .expectedValue s
  | fuel + 1, s =>
    match s with
    | '"' :: r => do
      let (cs, r) ← readText s 0 r
      return (.str (String.ofList cs), r)
    | '[' :: r => do
      let limits ← limits.inside .array
      match skipSpace r with
      | ']' :: r => return (.arr [], r)
      | r =>
        let (items, r) ← readItems limits fuel r
        return (.arr items, r)
    | '\x7b' :: r => do
      let limits ← limits.inside .object
      match skipSpace r with
      | '\x7d' :: r => return (.obj [], r)
      | r =>
        let (pairs, r) ← readFields limits fuel r
        return (.obj (Fields.ofPairs pairs), r)
    | s => readScalar limits s

/-- Reads the items of an array up to its closing bracket. -/
def readItems (limits : Limits) :
    (fuel : Nat) → List Char → Except Stop (List Json × List Char)
  | 0, s => stop .expectedValue s
  | fuel + 1, s => do
    let (item, r) ← readValue limits fuel s
    match skipSpace r with
    | ']' :: r => return ([item], r)
    | ',' :: r =>
      let (items, r) ← readItems limits fuel (skipSpace r)
      return (item :: items, r)
    | r => stop .expectedComma r

/-- Reads the fields of an object up to its closing brace. -/
def readFields (limits : Limits) :
    (fuel : Nat) → List Char → Except Stop (List (String × Json) × List Char)
  | 0, s => stop .expectedValue s
  | fuel + 1, s =>
    match s with
    | '"' :: r => do
      let (key, r) ← readText s 0 r
      match skipSpace r with
      | ':' :: r =>
        let (value, r) ← readValue limits fuel (skipSpace r)
        let field := (String.ofList key, value)
        match skipSpace r with
        | '\x7d' :: r => return ([field], r)
        | ',' :: r =>
          let (fields, r) ← readFields limits fuel (skipSpace r)
          return (field :: fields, r)
        | r => stop .expectedComma r
      | r => stop .expectedColon r
    | s => stop .expectedKey s

end

/-- Reads a whole text that may begin with anything. -/
def readWhole (limits : Limits) (s : List Char) : Except ReadError Json :=
  let malformed (flaw : Flaw) (left : List Char) : Except ReadError Json :=
    .error (.malformed flaw (.at s (s.length - left.length)))
  match readValue limits (2 * s.length + 2) (skipSpace s) with
  | .error (.malformed flaw left) => malformed flaw left
  | .error (.longInteger digits) => .error (.longInteger digits)
  | .error (.tooDeep container) => .error (.tooDeep container)
  | .ok (value, r) =>
    match skipSpace r with
    | [] => .ok value
    | left => malformed .extraData left

variable [OuterDepth]

/-- Reads a text that came as characters: a byte order mark at its start is a
fault. -/
def read (text : String) : Except ReadError Json :=
  match text.toList with
  | '\uFEFF' :: _ => .error (.malformed .byteOrderMark (.at [] 0))
  | s => readWhole outerLimits s

/-- Reads a text that came as octets, in whatever encoding; offsets count its
characters. -/
def readOctets (text : String) : Except ReadError Json :=
  match Text.documentText text.toList with
  | .ok s => readWhole outerLimits s
  | .error flaw => .error (.noText flaw)

/-- The wording of an error. -/
def ReadError.message : ReadError → String
  | .malformed flaw place =>
    flaw.wording ++ ": line " ++ toString place.line ++ " column " ++ toString place.column
      ++ " (char " ++ toString place.offset ++ ")"
  | .longInteger digits =>
    "Exceeds the limit (" ++ toString Text.maxDigits
      ++ " digits) for integer string conversion: value has " ++ toString digits
      ++ " digits; use sys.set_int_max_str_digits() to increase the limit"
  | .tooDeep container =>
    "maximum recursion depth exceeded while decoding a JSON " ++ container.name
      ++ " from a unicode string"
  | .noText flaw => flaw.message

end RequestAtlas.Json
