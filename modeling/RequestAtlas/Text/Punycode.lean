import RequestAtlas.Text.Ascii
import RequestAtlas.Text.Search

/-!
# Punycode

Any text in the letters, digits and hyphens of ASCII. The ASCII characters come
first, as they are, with a hyphen behind them. Then numbers say, one after the
other, which other character is put in and where: the characters go in by
increasing code point, and a number counts the states passed over, where the
state moves from one place in the text to the next, and behind the last place to
the first with the next code point.

A number is written in digits of growing weight, the least first. Each digit has
a threshold, and a digit below its threshold is the last one. The thresholds
follow the size of the numbers written so far.
-/

namespace RequestAtlas.Text.Punycode

/-- The digit of a value below 36. -/
def digit (d : Nat) : Char :=
  Char.ofNat (if d < 26 then 97 + d else 22 + d)

/-- The value of a digit. -/
def digitValue? (c : Char) : Option Nat :=
  if 'a' ≤ c ∧ c ≤ 'z' then some (c.toNat - 97)
  else if 'A' ≤ c ∧ c ≤ 'Z' then some (c.toNat - 65)
  else if c.isDigit then some (c.toNat - 22)
  else none

/-- The threshold of a digit; `k` is 36 for the first digit of a number and grows by
36 from digit to digit. -/
def threshold (bias k : Nat) : Nat :=
  max 1 (min 26 (k - bias))

theorem threshold_pos (bias k : Nat) : 0 < threshold bias k := by
  unfold threshold; omega

/-- The bias that goes with numbers of the size of `n`. -/
def biasOf (k n : Nat) : Nat :=
  if 455 < n then biasOf (k + 36) (n / 35) else k + 36 * n / (n + 38)
termination_by n
decreasing_by omega

/-- The first bias. -/
def firstBias : Nat := 72

/-- The bias behind a number. `count` is the number of characters in the text then;
the first number counts for less, as it tends to be large. -/
def nextBias (isFirst : Bool) (number count : Nat) : Nat :=
  let n := if isFirst then number / 700 else number / 2
  biasOf 0 (n + n / count)

/-! ## Writing -/

/-- The digits of a number. -/
def digits (bias k n : Nat) : List Char :=
  let t := threshold bias k
  if n < t then [digit n]
  else digit (t + (n - t) % (36 - t)) :: digits bias (k + 36) ((n - t) / (36 - t))
termination_by n
decreasing_by
  have := threshold_pos bias k
  have := Nat.div_le_self (n - threshold bias k) (36 - threshold bias k)
  omega

/-- What has been written: the digits, the states passed over since the last number,
the bias, and how many characters are in the text. -/
structure Progress where
  written : List Char
  passed : Nat
  bias : Nat
  count : Nat

/-- Passes over the place in front of `c`, where `code` goes in if it is `c`.
`basic` is the number of ASCII characters. -/
def Progress.pass (basic code : Nat) (p : Progress) (c : Char) : Progress :=
  if c.toNat < code then { p with passed := p.passed + 1 }
  else if c.toNat = code then
    { written := p.written ++ digits p.bias 36 p.passed
      passed := 0
      bias := nextBias (p.count == basic) p.passed (p.count + 1)
      count := p.count + 1 }
  else p

/-- Puts in every character of `s` whose code point is one of `codes`, which
increase. `code` is the code point of the present state. -/
def Progress.putIn (basic : Nat) (s : List Char) :
    (code : Nat) → List Nat → Progress → Progress
  | _, [], p => p
  | code, next :: codes, p =>
    let p := { p with passed := p.passed + (next - code) * (p.count + 1) }
    let p := s.foldl (pass basic next) p
    putIn basic s (next + 1) codes { p with passed := p.passed + 1 }

/-- The written form of a text. -/
def encode (s : List Char) : List Char :=
  let basic := s.filter isAscii
  let codes := ((s.filter (!isAscii ·)).map Char.toNat).eraseDups.mergeSort
  let start : Progress := ⟨[], 0, firstBias, basic.length⟩
  (if basic.isEmpty then [] else basic ++ ['-'])
    ++ (start.putIn basic.length s 0x80 codes).written

/-! ## Reading -/

/-- What has been read: the code points, the present state as a code point with a
place, the bias, and whether no number has been read. A number of which some digits have been
read has its sum so far and the weight and `k` of the next digit. -/
structure Reading where
  text : List Nat
  code : Nat
  place : Nat
  bias : Nat
  isFirst : Bool
  unread : Option (Nat × Nat × Nat)

/-- Puts in the code point that a number says, if there is such a code point. -/
def Reading.take (r : Reading) (number : Nat) : Option Reading :=
  let count := r.text.length + 1
  let state := r.place + number
  let code := r.code + state / count
  if code < 0x110000 then
    some
      { text := r.text.insertIdx (state % count) code
        code
        place := state % count + 1
        bias := nextBias r.isFirst number count
        isFirst := false
        unread := none }
  else none

/-- Reads a digit. -/
def Reading.next (r : Reading) (d : Nat) : Option Reading :=
  let (sum, weight, k) := r.unread.getD (0, 1, 36)
  let t := threshold r.bias k
  let sum := sum + d * weight
  if d < t then r.take sum
  else some { r with unread := some (sum, weight * (36 - t), k + 36) }

/-- Reads digits to their end. -/
def Reading.finish (r : Reading) : List Char → Option (List Nat)
  | [] => if r.unread.isNone then some r.text else none
  | c :: s => ((digitValue? c).bind r.next).bind (·.finish s)

/-- The code points of the text of a written form; the ASCII characters end at the
last hyphen. -/
def decode? (s : List Char) : Option (List Nat) :=
  let numbers := afterLast '-' s
  let basic := s.take (s.length - numbers.length - 1)
  Reading.finish ⟨basic.map Char.toNat, 0x80, 0, firstBias, true, none⟩ numbers

/-- Whether a written form has a hyphen with no ASCII characters in front of it. No
text is written in that way. -/
def hasNeedlessHyphen (s : List Char) : Bool :=
  s.head? = some '-' && !(s.drop 1).contains '-'

end RequestAtlas.Text.Punycode
