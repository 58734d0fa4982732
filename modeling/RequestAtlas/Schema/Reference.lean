import RequestAtlas.Schema.Basic
import RequestAtlas.Text.Blank
import RequestAtlas.Text.Search

/-!
# References in a line

A reference is written `Ref: table.column > table.column`, anywhere in a line.
Its four parts are runs of characters that are not blank, and such a run may
itself hold dots and arrows. Of the readings that are possible the one at the
leftmost `Ref:` counts, and among those the one whose first part is longest,
then whose second part is longest, and so on.
-/

namespace RequestAtlas.Reference

/-- The mark in front of a reference. -/
def mark : List Char := ['R', 'e', 'f', ':']

/-- Splits a run of characters that are not blank off the start of a text, such
that `next` succeeds on the rest: the longest such run with the value of
`next`. -/
def longestRun {α : Type} (next : List Char → Option α) :
    List Char → Option (List Char × α)
  | [] => none
  | c :: r =>
    if Text.isBlank c then none
    else match longestRun next r with
      | some (run, a) => some (c :: run, a)
      | none => (next r).map fun a => ([c], a)

/-- Goes on behind a dot. -/
def afterDot {α : Type} (next : List Char → Option α) : List Char → Option α
  | '.' :: r => next r
  | _ => none

/-- Goes on behind an arrow with blanks around it. -/
def afterArrow {α : Type} (next : List Char → Option α) (s : List Char) : Option α :=
  match Text.trimStart s with
  | '>' :: r => next (Text.trimStart r)
  | _ => none

/-- Two runs with a dot between them, and the value of `next` behind them. -/
def readEnd {α : Type} (next : List Char → Option α) (s : List Char) :
    Option (List Char × List Char × α) :=
  longestRun (afterDot (longestRun next)) s

/-- The reference that stands right behind a mark. -/
def readBody? (s : List Char) : Option Reference :=
  match readEnd (afterArrow (readEnd fun _ => some ())) (Text.trimStart s) with
  | some (a, b, c, d, ()) =>
    some ⟨String.ofList a, String.ofList b, String.ofList c, String.ofList d⟩
  | none => none

/-- The first reference in a line. -/
def find? : (line : List Char) → Option Reference
  | [] => none
  | c :: r =>
    match (Text.afterStart? mark (c :: r)).bind readBody? with
    | some ref => some ref
    | none => find? r

end RequestAtlas.Reference
