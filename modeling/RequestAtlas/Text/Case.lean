import RequestAtlas.Text.CaseTable

/-!
# Upper and lower case

The full case mappings: one character may become several, and a capital sigma
becomes the final form at the end of a word. Everything else depends on the
character alone.
-/

namespace RequestAtlas.Text

/-- Whether `n` lies in one of the ranges. -/
def inRanges (ranges : List (Nat × Nat)) (n : Nat) : Bool :=
  ranges.any fun (first, last) => first ≤ n && n ≤ last

/-- The image of `n` under the first run that covers it. -/
def imageIn? (runs : List (Nat × Nat × Nat × Nat)) (n : Nat) : Option Nat :=
  runs.findSome? fun (first, last, step, image) =>
    if first ≤ n && n ≤ last && (n - first) % step == 0 then some (image + (n - first))
    else none

/-- The characters a case table gives for `c`; `c` itself when it has no
entry. -/
def mapped (runs : List (Nat × Nat × Nat × Nat)) (expansions : List (Nat × List Nat))
    (c : Char) : List Char :=
  match imageIn? runs c.toNat with
  | some n => [Char.ofNat n]
  | none =>
    match expansions.lookup c.toNat with
    | some ns => ns.map Char.ofNat
    | none => [c]

/-- The upper-case form of one character. -/
def upperChar (c : Char) : List Char :=
  if c.toNat < 128 then [c.toUpper]
  else mapped CaseTable.upperRuns CaseTable.upperExpansions c

/-- The lower-case form of one character away from its neighbours. -/
def lowerChar (c : Char) : List Char :=
  if c.toNat < 128 then [c.toLower]
  else mapped CaseTable.lowerRuns CaseTable.lowerExpansions c

/-- The upper-case form of a text. -/
def upper (s : List Char) : List Char :=
  s.flatMap upperChar

/-- Whether the first character that counts has case. -/
def meetsCased (s : List Char) : Bool :=
  match s.dropWhile fun c => inRanges CaseTable.ignorable c.toNat with
  | [] => false
  | c :: _ => inRanges CaseTable.cased c.toNat

/-- Lower-cases `s`, where `before` holds the characters in front of it, the
nearest first. A capital sigma is final when a cased character stands before it
and none behind it. -/
def lowerAfter (before : List Char) : List Char → List Char
  | [] => []
  | c :: r =>
    (if c = 'Σ' then
      [if meetsCased before && !meetsCased r then 'ς' else 'σ']
    else lowerChar c) ++ lowerAfter (c :: before) r

/-- The lower-case form of a text. -/
def lower (s : List Char) : List Char :=
  lowerAfter [] s

/-- Upper-cases the first character of a text. -/
def capitalize (s : List Char) : List Char :=
  upper (s.take 1) ++ s.drop 1

end RequestAtlas.Text
