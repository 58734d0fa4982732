import RequestAtlas.Net.Label.MarkTable
import RequestAtlas.Text.Case

/-!
# Composed form

A letter with marks can be written in several ways. In the composed form marks
stand in the order of their classes and as many of them as possible are one with
their letter. Every composite is made of a letter and one mark at its end; the
syllables of Hangul are made of two or three parts in the same manner. What the
composed form replaces by something else it never holds.
-/

namespace RequestAtlas.Net.Label

/-- The class of a mark; zero for anything else. -/
def markClass (n : Nat) : Nat :=
  ((markClasses.find? fun (first, last, _) => first ≤ n && n ≤ last).map (·.2.2)).getD 0

/-- The base and the mark of a composite. -/
def parts? (n : Nat) : Option (Nat × Nat) :=
  (composites.find? fun (_, _, composite) => composite == n).map fun (base, mark, _) =>
    (base, mark)

/-- The syllable of Hangul that a part makes with the part, or with the syllable, in
front of it. -/
def syllable? (front part : Nat) : Option Nat :=
  if 0x1100 ≤ front ∧ front < 0x1113 ∧ 0x1161 ≤ part ∧ part < 0x1176 then
    some (0xAC00 + ((front - 0x1100) * 21 + (part - 0x1161)) * 28)
  else if 0xAC00 ≤ front ∧ front < 0xD7A4 ∧ (front - 0xAC00) % 28 = 0
      ∧ 0x11A7 < part ∧ part < 0x11C3 then
    some (front + (part - 0x11A7))
  else none

/-- The composite of a base and a mark. -/
def composite? (base mark : Nat) : Option Nat :=
  (syllable? base mark).or
    ((composites.find? fun (b, m, _) => b == base && m == mark).map (·.2.2))

/-- A letter with up to `fuel` marks taken off. -/
def decomposed : (fuel : Nat) → Nat → List Nat
  | 0, n => [n]
  | fuel + 1, n =>
    match parts? n with
    | some (base, mark) => decomposed fuel base ++ [mark]
    | none => [n]

/-- The most marks that are one with a letter. -/
def maxMarks : Nat := 3

/-- Puts a mark in front of ordered text: behind the marks of lesser classes that
it begins with. -/
def placeMark (n : Nat) : List Nat → List Nat
  | [] => [n]
  | m :: s =>
    if markClass m ≠ 0 ∧ markClass m < markClass n then m :: placeMark n s else n :: m :: s

/-- The text with its marks in order. -/
def orderMarks (s : List Nat) : List Nat :=
  s.foldr placeMark []

/-- Composes ordered text behind the letter `base`. `kept` are the marks that stay
apart from it, the last first. A mark of the same class as the last of them stays
as well. -/
def composeBehind (base : Nat) (kept : List Nat) : List Nat → List Nat
  | [] => base :: kept.reverse
  | n :: s =>
    let isNear := match kept with
      | [] => true
      | m :: _ => markClass m < markClass n
    match if isNear then composite? base n else none with
    | some composite => composeBehind composite kept s
    | none =>
      if markClass n = 0 then base :: kept.reverse ++ composeBehind n [] s
      else composeBehind base (n :: kept) s

/-- The composed form of a text in which nothing is to be replaced. -/
def composed (s : List Nat) : List Nat :=
  match orderMarks (s.flatMap (decomposed maxMarks)) with
  | [] => []
  | n :: s => composeBehind n [] s

/-- Whether a text is in composed form. -/
def isComposed (s : List Nat) : Bool :=
  !s.any (Text.inRanges replaced) && composed s == s

end RequestAtlas.Net.Label
