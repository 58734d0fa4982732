import RequestAtlas.Net.Label.CharTable
import RequestAtlas.Net.Label.Composed
import RequestAtlas.Net.Label.Flaw

/-!
# Labels

A host name consists of labels. A label holds letters, digits, hyphens and marks,
in composed form; hyphens stand inside, but not in the third and fourth place
together, and marks do not stand first. Some characters are taken in certain
surroundings only, and letters that are written from right to left do not mix
with others. A text that is no label has its first flaw.
-/

namespace RequestAtlas.Net.Label

open Text (inRanges)

/-! ## Characters and their surroundings -/

/-- Whether a label may hold a code point in any context. -/
def isFree (n : Nat) : Bool :=
  freeRuns.any fun (first, last, step) => first ≤ n && n ≤ last && (n - first) % step == 0

/-- Whether the nearest letter joins; `table` says which letters do. -/
def joins (table : List (Nat × Nat)) (s : List Nat) : Bool :=
  match s.dropWhile (inRanges transparent) with
  | n :: _ => inRanges dualJoining n || inRanges table n
  | [] => false

/-- Whether the nearest code point in front is a mark that takes the vowel from its
consonant. -/
def isBehindVirama (before : List Nat) : Bool :=
  before.head?.any (markClass · == 9)

/-- Whether a code point joins the letters next to it, or keeps them apart. -/
def isJoiner (n : Nat) : Bool :=
  n == 0x200C || n == 0x200D

/-- Whether the surroundings take the joiner `n`: `before` is what stands in front of
it, the nearest first, and `after` what stands behind it. -/
def joinerIsTaken (before : List Nat) (n : Nat) (after : List Nat) : Bool :=
  isBehindVirama before
    || n == 0x200C && joins joiningNext before && joins joiningPrevious after

/-- Whether the surroundings take the code point `n`, if it depends on them. -/
def surroundingsTake? (before : List Nat) (n : Nat) (after : List Nat) : Option Bool :=
  let label := before ++ after
  if n = 0xB7 then some (before.head? == some 0x6C && after.head? == some 0x6C)
  else if n = 0x375 then some (after.head?.any (inRanges greek))
  else if n = 0x5F3 ∨ n = 0x5F4 then some (before.head?.any (inRanges hebrew))
  else if n = 0x30FB then some (label.any fun m => m != 0x30FB && inRanges kanaAndHan m)
  else if 0x660 ≤ n ∧ n ≤ 0x669 then some (label.all (!inRanges [(0x6F0, 0x6F9)] ·))
  else if 0x6F0 ≤ n ∧ n ≤ 0x6F9 then some (label.all (!inRanges [(0x660, 0x669)] ·))
  else none

/-- Why a label does not hold the code point `n` there. -/
def flawAt? (before : List Nat) (n : Nat) (after : List Nat) : Option Flaw :=
  let spot : Spot := ⟨n, before.length + 1⟩
  let label := before.reverse ++ n :: after
  if isFree n then none
  else if isJoiner n then
    if before.head?.any (inRanges undirected) then some (.unknownNeighbour spot label)
    else if joinerIsTaken before n after then none
    else some (.joiner spot label)
  else
    match surroundingsTake? before n after with
    | some true => none
    | some false => some (.surroundings spot label)
    | none => some (.codePoint spot label)

/-- The first flaw among the code points of what is left of a label behind `before`,
the nearest first. -/
def codeFlaw? (before : List Nat) : List Nat → Option Flaw
  | [] => none
  | n :: after => (flawAt? before n after).or (codeFlaw? (n :: before) after)

/-! ## Direction -/

/-- The ways in which a code point takes part in the direction of a label. -/
inductive Direction where
  | rightward
  | leftward
  | leftwardDigit
  | plainDigit
  | mark
  | neutral
  | unknown
  deriving DecidableEq, Repr

/-- The direction of a code point. -/
def direction (n : Nat) : Direction :=
  if inRanges undirected n then .unknown
  else if inRanges leftwardLetters n then .leftward
  else if inRanges leftwardDigits n then .leftwardDigit
  else if inRanges plainDigits n then .plainDigit
  else if inRanges nonspacingMarks n then .mark
  else if inRanges neutrals n then .neutral
  else .rightward

/-- Whether the last code point that is no mark may end a label. -/
def endsWell (ends : List Direction) (ds : List Direction) : Bool :=
  (ds.reverse.dropWhile (· == .mark)).head?.any ends.contains

/-- The first flaw in the directions behind the start of a label that is written from
right to left. `digits` is the kind of its digits so far. -/
def leftwardFlaw? (place : Nat) (digits : Option Direction) :
    List Direction → Option DirectionFlaw
  | [] => none
  | d :: ds =>
    if d = .rightward then some (.within true place)
    else if d = .plainDigit ∨ d = .leftwardDigit then
      if digits.any (· != d) then some .digits else leftwardFlaw? (place + 1) (some d) ds
    else leftwardFlaw? (place + 1) digits ds

/-- Why the directions of a label do not go together. Without anything that is written
from right to left they always do. -/
def directionFlaw? (ds : List Direction) : Option DirectionFlaw :=
  if ds.contains .unknown then some (.unknown (ds.idxOf .unknown + 1))
  else if ds.contains .leftward || ds.contains .leftwardDigit then
    match ds.head? with
    | some .leftward =>
      (leftwardFlaw? 1 none ds).or
        (if endsWell [.leftward, .leftwardDigit, .plainDigit] ds then none else some .ending)
    | some .rightward =>
      some (.within false (ds.findIdx (fun d => d == .leftward || d == .leftwardDigit) + 1))
    | _ => some .start
  else none

/-! ## Labels -/

/-- Why hyphens may not stand where they do. -/
def hyphenFlaw? (s : List Nat) : Option Flaw :=
  if (s.drop 2).take 2 = [0x2D, 0x2D] then some .innerHyphens
  else if s.head? = some 0x2D ∨ s.getLast? = some 0x2D then some .edgeHyphen
  else none

/-- Why a text is no label: its first flaw. -/
def flaw? (s : List Nat) : Option Flaw :=
  if s.isEmpty then some .empty
  else if !isComposed s then some .notComposed
  else
    (hyphenFlaw? s).or <|
      if s.head?.any (inRanges marks) then some .initialMark
      else
        (codeFlaw? [] s).or <|
          (directionFlaw? (s.map direction)).map fun flaw => .direction flaw s

end RequestAtlas.Net.Label
