import RequestAtlas.Text.Ascii
import RequestAtlas.Text.Utf8

/-!
# Encodings of a document

A document that comes as octets does not say in which encoding it is written. It
begins with a character below 128, so the zeros among its first octets tell: the
units of its encoding have four octets, two or one, the greatest first or last.

A half of a surrogate pair may stand alone; the replacement character takes its
place.
-/

namespace RequestAtlas.Text

/-- The order of the octets of a unit. -/
inductive OctetOrder where
  | greatestFirst
  | greatestLast
  deriving DecidableEq, Repr

/-- The encodings of a document: by the width of a unit and the order of its
octets. -/
inductive Encoding where
  | octets
  | pairs (order : OctetOrder)
  | quadruples (order : OctetOrder)
  deriving DecidableEq, Repr

/-- The encoding that the first octets of a document show. -/
def Encoding.ofOctets : List Nat → Encoding
  | [0, _] => .pairs .greatestFirst
  | [_, 0] => .pairs .greatestLast
  | 0 :: b :: _ :: _ :: _ => if b = 0 then .quadruples .greatestFirst else .pairs .greatestFirst
  | _ :: 0 :: c :: d :: _ =>
    if c = 0 ∧ d = 0 then .quadruples .greatestLast else .pairs .greatestLast
  | _ => .octets

/-- What an order adds to the name of an encoding. -/
def OctetOrder.suffix : OctetOrder → String
  | .greatestFirst => "-be"
  | .greatestLast => "-le"

/-- The name of an encoding. -/
def Encoding.name : Encoding → String
  | .octets => "utf-8"
  | .pairs order => "utf-16" ++ order.suffix
  | .quadruples order => "utf-32" ++ order.suffix

/-- Why octets are no text. -/
inductive EncodingFlaw where
  /-- The last unit is not complete; `octets` are those it has. -/
  | cutOff (encoding : Encoding) (place : Nat) (octets : List Nat)
  /-- A unit is the number of no character. -/
  | noCharacter (encoding : Encoding) (place : Nat)
  deriving DecidableEq, Repr

/-- The message of a flaw. -/
def EncodingFlaw.message : EncodingFlaw → String
  | .cutOff encoding place [b] =>
    refusal encoding ++ "byte 0x" ++ String.ofList (hexPlaces 2 b) ++ " in position "
      ++ toString place ++ ": truncated data"
  | .cutOff encoding place bs =>
    refusal encoding ++ span place bs.length ++ ": truncated data"
  | .noCharacter encoding place =>
    refusal encoding ++ span place 4 ++ ": code point not in range(0x110000)"
where
  /-- Who refuses the octets. -/
  refusal (encoding : Encoding) : String :=
    "'" ++ encoding.name ++ "' codec can't decode "
  /-- Where the refused octets are. -/
  span (place length : Nat) : String :=
    "bytes in position " ++ toString place ++ "-" ++ toString (place + length - 1)

/-- The number that the octets of a unit make. -/
def OctetOrder.unit (order : OctetOrder) (bs : List Nat) : Nat :=
  let number (bs : List Nat) : Nat := bs.foldl (fun n b => 0x100 * n + b) 0
  match order with
  | .greatestFirst => number bs
  | .greatestLast => number bs.reverse

/-- Whether a code unit opens a surrogate pair. -/
def isHighSurrogate (n : Nat) : Bool :=
  0xD800 ≤ n && n < 0xDC00

/-- Whether a code unit closes a surrogate pair. -/
def isLowSurrogate (n : Nat) : Bool :=
  0xDC00 ≤ n && n < 0xE000

/-- The character of a code unit. A text is made of Unicode scalar values, so half a
surrogate pair has no place in one, and the replacement character takes it. -/
def ofCodeUnit (n : Nat) : Char :=
  if isHighSurrogate n || isLowSurrogate n then replacement else Char.ofNat n

/-- The character of a surrogate pair. -/
def ofSurrogates (high low : Nat) : Char :=
  Char.ofNat (0x10000 + (high - 0xD800) * 0x400 + (low - 0xDC00))

/-- Reads units of two octets; `high` is the first half of a pair that waits for
the second. -/
def readPairs (order : OctetOrder) (place : Nat) :
    (high : Option Nat) → List Nat → Except EncodingFlaw (List Char)
  | high, [] => .ok (high.toList.map ofCodeUnit)
  | _, [b] => .error (.cutOff (.pairs order) place [b])
  | high, a :: b :: r =>
    let n := order.unit [a, b]
    match high with
    | some m =>
      if isLowSurrogate n then (readPairs order (place + 2) none r).map (ofSurrogates m n :: ·)
      else if isHighSurrogate n then
        (readPairs order (place + 2) (some n) r).map (ofCodeUnit m :: ·)
      else (readPairs order (place + 2) none r).map (ofCodeUnit m :: ofCodeUnit n :: ·)
    | none =>
      if isHighSurrogate n then readPairs order (place + 2) (some n) r
      else (readPairs order (place + 2) none r).map (ofCodeUnit n :: ·)

/-- Reads units of four octets. -/
def readQuadruples (order : OctetOrder) (place : Nat) :
    List Nat → Except EncodingFlaw (List Char)
  | a :: b :: c :: d :: r =>
    let n := order.unit [a, b, c, d]
    if 0x110000 ≤ n then .error (.noCharacter (.quadruples order) place)
    else (readQuadruples order (place + 4) r).map (ofCodeUnit n :: ·)
  | [] => .ok []
  | bs => .error (.cutOff (.quadruples order) place bs)

/-- The text of a document whose octets are those of `s`. The mark in front of a
document in octets is dropped. -/
def documentText (s : List Char) : Except EncodingFlaw (List Char) :=
  match Encoding.ofOctets ((s.take 4).flatMap octets) with
  | .octets => .ok (if s.head? = some '\uFEFF' then s.drop 1 else s)
  | .pairs order => readPairs order 0 none (s.flatMap octets)
  | .quadruples order => readQuadruples order 0 (s.flatMap octets)

end RequestAtlas.Text
