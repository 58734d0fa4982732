/-!
# Texts in ASCII

Numbers and octets as ASCII text, and what is said of a text that should be in
ASCII and is not: the message names the first characters that are outside.

Hexadecimal digits of either case are read; both cases are written, each where
its format asks for it. Lower-case digits are those of `Nat.digitChar`.
-/

namespace RequestAtlas.Text

/-! ## Hexadecimal digits -/

/-- The value of a hexadecimal digit. -/
def hexValue? (c : Char) : Option Nat :=
  if '0' ≤ c ∧ c ≤ '9' then some (c.toNat - 48)
  else if 'A' ≤ c ∧ c ≤ 'F' then some (c.toNat - 55)
  else if 'a' ≤ c ∧ c ≤ 'f' then some (c.toNat - 87)
  else none

/-- Whether a character is a hexadecimal digit. -/
def isHexDigit (c : Char) : Bool :=
  (hexValue? c).isSome

/-- The upper-case digit of a number below sixteen. -/
def upperHexDigit (n : Nat) : Char :=
  if n < 10 then Char.ofNat (48 + n) else Char.ofNat (55 + n)

/-- A number in lower-case digits, filled up with zeros to `width` places. -/
def hexPlaces (width n : Nat) : List Char :=
  let ds := Nat.toDigits 16 n
  List.replicate (width - ds.length) '0' ++ ds

/-- An upper-case digit is read back as its number. -/
theorem hexValue?_upperHexDigit {n : Nat} (h : n < 16) : hexValue? (upperHexDigit n) = some n :=
  (by decide : ∀ n < 16, hexValue? (upperHexDigit n) = some n) n h

/-! ## Base 64

Every three octets are four digits, and equals signs fill up the last four. -/

/-- The digit of a number below sixty-four. -/
def base64Digit (n : Nat) : Char :=
  if n < 26 then Char.ofNat (65 + n)
  else if n < 52 then Char.ofNat (71 + n)
  else if n < 62 then Char.ofNat (n - 4)
  else if n = 62 then '+'
  else '/'

/-- The text of a list of octets. -/
def base64 : List Nat → List Char
  | [] => []
  | [a] => [base64Digit (a / 4), base64Digit (a % 4 * 16), '=', '=']
  | [a, b] =>
    [base64Digit (a / 4), base64Digit (a % 4 * 16 + b / 16), base64Digit (b % 16 * 4), '=']
  | a :: b :: c :: r =>
    base64Digit (a / 4) :: base64Digit (a % 4 * 16 + b / 16)
      :: base64Digit (b % 16 * 4 + c / 64) :: base64Digit (c % 64) :: base64 r

/-! ## Characters outside -/

/-- Whether a character is one of ASCII. -/
def isAscii (c : Char) : Bool := c.toNat < 0x80

/-- A character by its number. -/
def numbered (c : Char) : List Char :=
  if c.toNat < 0x100 then '\\' :: 'x' :: hexPlaces 2 c.toNat
  else if c.toNat < 0x10000 then '\\' :: 'u' :: hexPlaces 4 c.toNat
  else '\\' :: 'U' :: hexPlaces 8 c.toNat

/-- Why a text is not in ASCII, if it is not. -/
def asciiRefusal? (s : List Char) : Option String :=
  let place := (s.takeWhile isAscii).length
  let refuse (what : String) : Option String :=
    some ("'ascii' codec can't encode " ++ what ++ ": ordinal not in range(128)")
  match (s.dropWhile isAscii).takeWhile (!isAscii ·) with
  | [] => none
  | [c] =>
    refuse ("character '" ++ String.ofList (numbered c) ++ "' in position " ++ toString place)
  | cs =>
    refuse ("characters in position " ++ toString place ++ "-"
      ++ toString (place + cs.length - 1))

end RequestAtlas.Text
