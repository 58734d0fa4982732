/-!
# Finding and cutting

Search for a given piece of text, and cuts at a given character. All of them
report the first place that fits.
-/

namespace RequestAtlas.Text

/-- What follows `pat`, when `s` starts with it. -/
def afterStart? : (pat s : List Char) → Option (List Char)
  | [], s => some s
  | _ :: _, [] => none
  | p :: ps, c :: r => if p = c then afterStart? ps r else none

/-- Whether `s` starts with `pat`. -/
def startsWith (pat s : List Char) : Bool :=
  (afterStart? pat s).isSome

/-- Whether `s` ends with `pat`. -/
def endsWith (pat s : List Char) : Bool :=
  startsWith pat.reverse s.reverse

/-- The text before and the text behind the first place where `pat` stands. -/
def cut? (pat : List Char) : (s : List Char) → Option (List Char × List Char)
  | [] => (afterStart? pat []).map ([], ·)
  | c :: r =>
    match afterStart? pat (c :: r) with
    | some rest => some ([], rest)
    | none => (cut? pat r).map fun (before, rest) => (c :: before, rest)

/-- Whether `pat` stands somewhere in `s`. -/
def contains (pat s : List Char) : Bool :=
  (cut? pat s).isSome

/-- The pieces of `s` between the characters `sep`; never empty. -/
def splitAt (sep : Char) : List Char → List (List Char)
  | [] => [[]]
  | c :: r =>
    if c = sep then [] :: splitAt sep r
    else match splitAt sep r with
      | [] => [[c]]
      | p :: ps => (c :: p) :: ps

/-- `s` cut at the first `sep`, which is dropped; without one the second part
is empty. -/
def cutAt (sep : Char) (s : List Char) : List Char × List Char :=
  (s.takeWhile (· != sep), (s.dropWhile (· != sep)).drop 1)

/-- What follows the last `sep`; all of `s` when there is none. -/
def afterLast (sep : Char) (s : List Char) : List Char :=
  (s.reverse.takeWhile (· != sep)).reverse

/-- The pieces joined, with `sep` between any two. -/
def join (sep : List Char) (pieces : List (List Char)) : List Char :=
  sep.intercalate pieces

end RequestAtlas.Text
