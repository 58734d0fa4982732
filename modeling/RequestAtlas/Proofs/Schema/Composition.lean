import RequestAtlas.Proofs.Text.Layout
import RequestAtlas.Schema.Reader

/-!
# Reading two texts in a row

A schema text can be put in front of another one. All that is carried from the first to
the second is the place where the reader stands between them, so the tables closed in
the first text stay, and the second is read as if it were alone when the reader stands
where it started (`read_append_lineFeed`). References are found line by line and carry
nothing.

The line feed between the two texts ends the last line of the first, or stands behind a
break that has ended it already. Then there is an empty line at the seam, which closes
no table and leaves the place in front of a text as it is.
-/

namespace RequestAtlas.Schema

open Text

theorem readLine_nil (place : Place) : (readLine place []).2 = none := by
  match place with
  | .outside none => rfl
  | .outside (some _) => rfl
  | .inside _ _ _ => rfl

theorem readTables_gap (place : Place) {gap : List (List Char)}
    (hgap : gap = [] ∨ gap = [[]]) : readTables place gap = [] := by
  rcases hgap with rfl | rfl
  · rfl
  · rw [readTables_cons, readLine_nil]
    rfl

theorem placeAfter_start_gap {gap : List (List Char)} (hgap : gap = [] ∨ gap = [[]]) :
    placeAfter .start gap = .start := by
  rcases hgap with rfl | rfl <;> rfl

theorem filterMap_gap {gap : List (List Char)} (hgap : gap = [] ∨ gap = [[]]) :
    gap.filterMap Reference.find? = [] := by
  rcases hgap with rfl | rfl <;> rfl

/-- The schema of two texts with a line feed between them. The tables of the first come
first, and so do its references; the references of the second follow; and when the first
text leaves the reader outside every table with no brace to wait for, so do the tables
of the second. -/
theorem read_append_lineFeed (a b : String) :
    (read a).tables <+: (read (a ++ "\n" ++ b)).tables ∧
      (read (a ++ "\n" ++ b)).references = (read a).references ++ (read b).references ∧
      (placeAfter .start (Text.lines a.toList) = .outside none →
        (read (a ++ "\n" ++ b)).tables = (read a).tables ++ (read b).tables) := by
  obtain ⟨gap, hgap, happend⟩ := lines_append_lineFeed a.toList
  have hlines : Text.lines (a ++ "\n" ++ b).toList =
      Text.lines a.toList ++ (gap ++ Text.lines b.toList) := by
    rw [String.toList_append, String.toList_append, List.append_assoc]
    exact happend b.toList
  have htables : (read (a ++ "\n" ++ b)).tables = (read a).tables ++
      readTables (placeAfter .start (Text.lines a.toList)) (gap ++ Text.lines b.toList) := by
    rw [read, hlines, readTables_append]
    rfl
  refine ⟨?_, ?_, fun hplace => ?_⟩
  · rw [htables]
    exact List.prefix_append _ _
  · rw [read, hlines, List.filterMap_append, List.filterMap_append, filterMap_gap hgap,
      List.nil_append]
    rfl
  · -- the empty line at the seam leaves the reader where it started
    rw [htables, hplace, ← Place.start, readTables_append, readTables_gap _ hgap,
      placeAfter_start_gap hgap]
    rfl

/-- The carriage return that ends the first text and the line feed behind it are one
break. -/
theorem read_append_lineFeed_return :
    let a := "Ref: orders.user_id > users.id\nTable users \x7b\n  id UUID \x7d\r"
    let b := "Table orders \x7b id UUID\n  user_id UUID\n\x7d"
    placeAfter .start (Text.lines a.toList) = .outside none ∧
      (read (a ++ "\n" ++ b)).tables = (read a).tables ++ (read b).tables := by
  intro a b
  have hplace : placeAfter .start (Text.lines a.toList) = .outside none := by decide +kernel
  exact ⟨hplace, (read_append_lineFeed a b).2.2 hplace⟩

/-- A header without brace at the end of the first text takes the block that the second
begins with, which has no table alone. -/
example :
    (read "Table users").tables = [] ∧ (read "\x7b id UUID \x7d").tables = [] ∧
      (read "Table users\n\x7b id UUID \x7d").tables = [⟨"users", [⟨"id", "UUID"⟩]⟩] := by
  decide +kernel

end RequestAtlas.Schema
