import RequestAtlas.Text.Ascii
import RequestAtlas.Text.Utf8

/-!
# Percent encoding

A character that may not stand for itself is written as its octets, each as a
percent sign and two upper-case hexadecimal digits.
-/

namespace RequestAtlas.Text

/-- The characters that stand for themselves everywhere in an address. -/
def isUnreserved (c : Char) : Bool :=
  c.isAlphanum || c == '_' || c == '.' || c == '-' || c == '~'

/-- An octet in its encoded form. -/
def percentOctet (b : Nat) : List Char :=
  ['%', upperHexDigit (b / 16), upperHexDigit (b % 16)]

/-- Encodes every character for which `keep` does not hold. -/
def percentEncode (keep : Char → Bool) (s : List Char) : List Char :=
  s.flatMap fun c => if keep c then [c] else (octets c).flatMap percentOctet

/-- The octets of an encoded text. A percent sign without two hexadecimal
digits stands for itself. -/
def percentOctets : List Char → List Nat
  | [] => []
  | '%' :: a :: b :: r =>
    match hexValue? a, hexValue? b with
    | some x, some y => (16 * x + y) :: percentOctets r
    | _, _ => octets '%' ++ percentOctets (a :: b :: r)
  | c :: r => octets c ++ percentOctets r

/-- The text that an encoded text stands for. -/
def percentDecode (s : List Char) : List Char :=
  decodeOctets (percentOctets s)

/-- Encodes the value of a form field: unreserved characters stand for
themselves and a space becomes a plus. -/
def formEncode (s : List Char) : List Char :=
  s.flatMap fun c => if c = ' ' then ['+'] else percentEncode isUnreserved [c]

end RequestAtlas.Text
