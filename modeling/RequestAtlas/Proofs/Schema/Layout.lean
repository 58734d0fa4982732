import RequestAtlas.Proofs.Schema.Body
import RequestAtlas.Proofs.Schema.Composition
import RequestAtlas.Proofs.Schema.Reference

/-!
# What a schema text may hold besides its schema

A schema text is written by people, who put comments, notes and empty lines into it,
indent it, and move it between systems that end lines differently. None of this reaches
the schema (`read_ignores_layout`).

A line that the reader passes over leaves it where it was and closes no table, so such a
line can be put in at any place of that kind: the rest of the text is then read from the
same place. Which lines are passed over depends on the place (`Place.PassesOver`):
inside a table empty lines, comments and notes; outside every table all that is no
header, unless a brace is awaited, because any other line ends the wait.

Line ends and padding leave the text with the same lines up to blanks at their ends.
The tables are read from trimmed lines, and a reference is found in a line whatever
blanks stand at its ends.
-/

namespace RequestAtlas.Schema

open Text

/-- Whether a trimmed line leaves the reader at the place where it stands. -/
def Place.PassesOver : Place → List Char → Prop
  | .outside none, line => readHeader? line = none
  | .outside (some _), _ => False
  | .inside _ _ _, line =>
    line = [] ∨ Column.commentMark <+: line ∨ (Column.noteMark <+: line ∧ '\x7d' ∉ line)

instance (place : Place) (line : List Char) : Decidable (place.PassesOver line) :=
  match place with
  | .outside none => inferInstanceAs (Decidable (readHeader? line = none))
  | .outside (some _) => inferInstanceAs (Decidable False)
  | .inside _ _ _ => inferInstanceAs (Decidable (_ ∨ _ ∨ _ ∧ _))

/-! ## Lines that are passed over -/

theorem readLine_of_passesOver {place : Place} {line : List Char}
    (h : place.PassesOver (trim line)) : readLine place line = (place, none) := by
  match place, h with
  | .outside none, h =>
      have hheader : readHeader? (trim line) = none := h
      rw [← Place.start, readLine_start, readOutside, hheader]
      rfl
  | .inside awaited name columns, h =>
      have hdeclares (hempty : trim line = [] ∨ Column.noteMark <+: trim line) :
          Column.read? (trim line) = none := by
        refine Column.read?_eq_none_iff.2 ?_
        rw [trim_trim]
        exact hempty.imp_right .inr
      rw [readLine]
      rcases h with hempty | hcomment | ⟨hnote, hbrace⟩
      · rw [readBody_of_not_mem _ _ _ (by simp [hempty]), hdeclares (.inl hempty)]
        simp
      · exact readBody_of_comment _ _ _ hcomment
      · rw [readBody_of_not_mem _ _ _ hbrace, hdeclares (.inr hnote)]
        simp

theorem readTables_insert (place : Place) {before : List (List Char)} {line : List Char}
    (after : List (List Char)) (h : (placeAfter place before).PassesOver (trim line)) :
    readTables place (before ++ line :: after) = readTables place (before ++ after) := by
  rw [readTables_append, readTables_append, readTables_cons, readLine_of_passesOver h]
  rfl

/-! ## Lines that differ in their ends -/

theorem readLine_congr (place : Place) {l m : List Char} (h : trim l = trim m) :
    readLine place l = readLine place m := by
  rw [readLine.eq_def, readLine.eq_def, h]

theorem readTables_congr (place : Place) {ls ms : List (List Char)}
    (h : List.Forall₂ (fun l m => trim l = trim m) ls ms) :
    readTables place ls = readTables place ms := by
  induction h generalizing place with
  | nil => rfl
  | cons hline _ ih => rw [readTables_cons, readTables_cons, readLine_congr place hline, ih]

theorem filterMap_find?_congr {ls ms : List (List Char)}
    (h : List.Forall₂ (fun l m => Reference.find? l = Reference.find? m) ls ms) :
    ls.filterMap Reference.find? = ms.filterMap Reference.find? := by
  induction h with
  | nil => rfl
  | cons hline _ ih => rw [List.filterMap_cons, List.filterMap_cons, hline, ih]

/-! ## The end of a text -/

theorem readTables_concat_lineFeed (place : Place) (s : List Char) :
    readTables place (Text.lines (s ++ ['\n'])) = readTables place (Text.lines s) := by
  obtain ⟨gap, hgap, hlines⟩ := lines_concat_lineFeed s
  rw [hlines, readTables_append, readTables_gap _ hgap, List.append_nil]

theorem filterMap_concat_lineFeed (s : List Char) :
    (Text.lines (s ++ ['\n'])).filterMap Reference.find? =
      (Text.lines s).filterMap Reference.find? := by
  obtain ⟨gap, hgap, hlines⟩ := lines_concat_lineFeed s
  rw [hlines, List.filterMap_append, filterMap_gap hgap, List.append_nil]

theorem tables_read_intercalate {ls : List String} (h : ∀ l ∈ ls, IsLine l.toList) :
    (read ("\n".intercalate ls)).tables = readTables .start (ls.map String.toList) := by
  have hlines : ∀ l ∈ ls.map String.toList, IsLine l := by
    simpa using h
  -- the last line may be empty, and is a line of the text once a break ends it
  rw [read, String.toList_intercalate, ← readTables_concat_lineFeed]
  cases ls with
  | nil => rfl
  | cons l ls =>
      show readTables .start (Text.lines (['\n'].intercalate _ ++ ['\n'])) = _
      rw [lines_intercalate_concat (by simp) hlines]

/-! ## The law -/

theorem read_of_padded {text padded : String} (hreturn : '\r' ∉ text.toList)
    (h : Padded text.toList padded.toList) : read padded = read text := by
  have hlines := h.forall₂_lines hreturn
  have htables : readTables .start (Text.lines (padded.toList ++ ['\n'])) =
      readTables .start (Text.lines (text.toList ++ ['\n'])) :=
    (readTables_congr .start (hlines.imp fun _ _ hline => hline.trim_eq.symm)).symm
  have hreferences : (Text.lines (padded.toList ++ ['\n'])).filterMap Reference.find? =
      (Text.lines (text.toList ++ ['\n'])).filterMap Reference.find? := by
    refine (filterMap_find?_congr (hlines.imp ?_)).symm
    rintro line _ ⟨p, q, hp, hq, rfl⟩
    rw [Reference.find?_blank_append _ hp.blank, Reference.find?_append_blank _ hq.blank]
  rw [readTables_concat_lineFeed, readTables_concat_lineFeed] at htables
  rw [filterMap_concat_lineFeed, filterMap_concat_lineFeed] at hreferences
  rw [read, htables, hreferences]
  rfl

/-- Lines that the reader passes over where they stand change no table. Carriage returns
in front of the line feeds, and spaces and tabs at the ends of lines, change neither a
table nor a reference. -/
theorem read_ignores_layout :
    (∀ (before after : List String) (line : String),
      (∀ l ∈ before ++ line :: after, IsLine l.toList) →
      (placeAfter .start (before.map String.toList)).PassesOver (trim line.toList) →
      (read ("\n".intercalate (before ++ line :: after))).tables =
        (read ("\n".intercalate (before ++ after))).tables) ∧
    (∀ text : String, '\r' ∉ text.toList →
      read (String.ofList (withReturns text.toList)) = read text ∧
        ∀ padded : String, Padded text.toList padded.toList → read padded = read text) := by
  refine ⟨fun before after line hlines hplace => ?_, fun text hreturn => ⟨?_, ?_⟩⟩
  · have hkept : ∀ l ∈ before ++ after, IsLine l.toList := fun l hl =>
      hlines l (by simp only [List.mem_append, List.mem_cons] at hl ⊢; tauto)
    rw [tables_read_intercalate hlines, tables_read_intercalate hkept, List.map_append,
      List.map_append, List.map_cons]
    exact readTables_insert .start _ hplace
  · rw [read, String.toList_ofList, lines_withReturns hreturn]
    rfl
  · exact fun padded hpadded => read_of_padded hreturn hpadded

/-- A comment with a closing brace inside a table, and a text whose header waits for its
brace, with tabs around that brace and behind the reference. -/
theorem read_ignores_layout_waiting :
    let before := ["Table users \x7b", "  id UUID"]
    let line := " \t// \x7d"
    let after := ["  name TEXT", "\x7d"]
    let text := "Table users\n\x7b \x7d\nRef: users.id > orders.user_id"
    let padded := "Table users\n\t\x7b \x7d \nRef: users.id > orders.user_id\t"
    (∀ l ∈ before ++ line :: after, IsLine l.toList) ∧
      (placeAfter .start (before.map String.toList)).PassesOver (trim line.toList) ∧
      (read ("\n".intercalate (before ++ line :: after))).tables =
        (read ("\n".intercalate (before ++ after))).tables ∧
      '\r' ∉ text.toList ∧ Padded text.toList padded.toList ∧
      read (String.ofList (withReturns text.toList)) = read text ∧ read padded = read text := by
  intro before line after text padded
  have hlines : ∀ l ∈ before ++ line :: after, IsLine l.toList := by decide +kernel
  have hplace : (placeAfter .start (before.map String.toList)).PassesOver (trim line.toList) := by
    decide +kernel
  have hreturn : '\r' ∉ text.toList := by decide +kernel
  have hpadded : Padded text.toList padded.toList := by
    have htext : text.toList = "Table users".toList ++ '\n' :: ("\x7b \x7d".toList ++
        '\n' :: "Ref: users.id > orders.user_id".toList) := by decide +kernel
    have hwidened : padded.toList = "Table users".toList ++ '\n' :: ("\t\x7b \x7d ".toList ++
        '\n' :: "Ref: users.id > orders.user_id\t".toList) := by decide +kernel
    rw [htext, hwidened]
    refine .cons (by decide +kernel) ⟨[], [], by decide, by decide, by decide +kernel⟩
      (by decide) ?_
    refine .cons (by decide +kernel) ⟨['\t'], [' '], by decide, by decide, by decide +kernel⟩
      (by decide) ?_
    exact .last (by decide +kernel) ⟨[], ['\t'], by decide, by decide, by decide +kernel⟩
  obtain ⟨hinsert, hrelaid⟩ := read_ignores_layout
  exact ⟨hlines, hplace, hinsert before after line hlines hplace, hreturn, hpadded,
    (hrelaid text hreturn).1, (hrelaid text hreturn).2 padded hpadded⟩

end RequestAtlas.Schema
