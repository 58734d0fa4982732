import RequestAtlas.Proofs.Schema.Body
import RequestAtlas.Proofs.Schema.Header
import RequestAtlas.Proofs.Schema.Reference
import RequestAtlas.Proofs.Text.Layout

/-!
# What is read is well formed

Every text has a schema, also one that makes no sense, so what a schema may hold is up
to the reader alone. A column is made of a word and a type that can stand in one line of
a table; a reference is made of words; and a table has the name of a header
(`read_isWellFormed`).

The columns are settled by an invariant of the place: no column of the table that is
open is malformed. For the names the reader is followed back: a table that is closed was
open at the start, or was awaited there, or has its header among the lines
(`origin_of_mem_readTables`).

A header waits for its brace under its name less the braces at the end of the name. A
name has such a brace only if it is nothing else, so a line with a lone brace for a name
waits under the empty name. This is the one way to a table without a name.
-/

namespace RequestAtlas

open Text

/-! ## Columns -/

/-- Whether a text can be the name of a column. -/
structure Column.IsName (name : String) : Prop where
  isWord : IsWord name.toList
  brace : '\x7d' ∉ name.toList
  comment : ¬ commentMark <+: name.toList
  note : ¬ noteMark <+: name.toList

/-- Whether a text can be the type of a column. -/
structure Column.IsType (type : String) : Prop where
  ne : type ≠ ""
  trim : trimString type = type
  brace : '\x7d' ∉ type.toList
  isLine : IsLine type.toList

/-- Whether a column can have come from a line of a table: a word that begins neither a
comment nor a note, and a text without blanks at its ends, on one line and with no
closing brace. -/
structure Column.IsWellFormed (c : Column) : Prop where
  name : IsName c.name
  type : IsType c.type

theorem Column.isType_defaultType : IsType defaultType :=
  ⟨by decide, by decide +kernel, by decide +kernel, by decide +kernel⟩

theorem Column.isWellFormed_of_read? {piece : List Char} {c : Column} (hline : IsLine piece)
    (hbrace : '\x7d' ∉ piece) (h : read? piece = some c) : c.IsWellFormed := by
  have hdeclares : ¬ (trim piece = [] ∨ commentMark <+: trim piece ∨ noteMark <+: trim piece) := by
    rw [← read?_eq_none_iff, h]
    simp
  rw [not_or, not_or] at hdeclares
  obtain ⟨hne, hcomment, hnote⟩ := hdeclares
  obtain ⟨word, type, hcut⟩ : ∃ word type, cutWord (trim piece) = (word, type) := ⟨_, _, rfl⟩
  obtain ⟨hword, hbegins, htrim, hsuffix⟩ := cutWord_of_trim_eq_self hne (trim_trim piece) hcut
  have hwithin : word ⊆ piece := fun d hd => (trim_isInfix piece).subset (hbegins.subset hd)
  have hbehind : type ⊆ piece := fun d hd => (trim_isInfix piece).subset (hsuffix.subset hd)
  have hname : IsName (String.ofList word) := by
    refine ⟨?_, ?_, ?_, ?_⟩ <;> rw [String.toList_ofList]
    · exact hword
    · exact fun hmem => hbrace (hwithin hmem)
    · exact fun hmark => hcomment (hmark.trans hbegins)
    · exact fun hmark => hnote (hmark.trans hbegins)
  rw [(read?_eq_some_iff.1 h).2, hcut]
  refine ⟨hname, ?_⟩
  dsimp only
  split
  · exact isType_defaultType
  · next hempty =>
      refine ⟨by simpa using hempty, by rw [trimString, String.toList_ofList, htrim], ?_, ?_⟩ <;>
        rw [String.toList_ofList]
      · exact fun hmem => hbrace (hbehind hmem)
      · exact fun d hd => hline d (hbehind hd)

namespace Schema

/-! ## What a line can do -/

/-- How a line comes to be read as a piece of the body of a table: inside the table; from
the brace on that the table has waited for; or from the brace of its header on. -/
inductive ReadsPiece (line : List Char) :
    Place → Option (List Char) → List Char → List Column → List Char → Prop
  | inside (awaited : Option (List Char)) (name : List Char) (columns : List Column) :
      ReadsPiece line (.inside awaited name columns) awaited name columns (trim line)
  | brace {name piece : List Char} (h : trim line = '\x7b' :: piece) :
      ReadsPiece line (.outside (some name)) none name [] piece
  | header {awaited : Option (List Char)} {name piece : List Char}
      (h : readHeader? (trim line) = some (name, '\x7b' :: piece)) :
      ReadsPiece line (.outside awaited) awaited name [] piece

theorem ReadsPiece.suffix {line : List Char} {place : Place} {awaited : Option (List Char)}
    {name : List Char} {columns : List Column} {piece : List Char}
    (h : ReadsPiece line place awaited name columns piece) : piece <:+ trim line := by
  cases h with
  | inside => exact List.suffix_rfl
  | brace h => exact h ▸ List.suffix_cons _ _
  | header h =>
      obtain ⟨-, -, w, v, -, -, -, hline⟩ := readHeader?_eq_some_iff.1 h
      refine ⟨headerWord ++ (w ++ (name ++ (v ++ ['\x7b']))), ?_⟩
      rw [hline]
      simp

/-- A header that waits for its brace waits under its name less the braces at the end. -/
def WaitsFor (name line : List Char) : Prop :=
  ∃ long, readHeader? (trim line) = some (long, []) ∧ dropEndWhile (· == '\x7b') long = name

theorem readOutside_cases (awaited : Option (List Char)) (line : List Char) :
    (∃ next, readOutside awaited (trim line) = (.outside next, none) ∧
      ∀ name ∈ next, WaitsFor name line) ∨
    ∃ name piece, readOutside awaited (trim line) = readBody awaited name [] piece ∧
      readHeader? (trim line) = some (name, '\x7b' :: piece) := by
  cases hheader : readHeader? (trim line) with
  | none =>
      refine .inl ⟨none, ?_, by simp⟩
      rw [readOutside, hheader]
  | some header =>
      obtain ⟨name, rest⟩ := header
      rcases (readHeader?_eq_some_iff.1 hheader).2.1 with rfl | ⟨piece, rfl⟩
      · refine .inl ⟨some (dropEndWhile (· == '\x7b') name), ?_, ?_⟩
        · rw [readOutside, hheader]
        · rintro _ ⟨⟩
          exact ⟨name, hheader, rfl⟩
      · refine .inr ⟨name, piece, ?_, rfl⟩
        rw [readOutside, hheader]

/-- All that a line can do: it leaves the reader outside with the brace of its own header
to wait for, if any, or it is read as a piece of the body of a table. -/
theorem readLine_cases (place : Place) (line : List Char) :
    (∃ next, readLine place line = (.outside next, none) ∧ ∀ name ∈ next, WaitsFor name line) ∨
    ∃ awaited name columns piece, readLine place line = readBody awaited name columns piece ∧
      ReadsPiece line place awaited name columns piece := by
  match place with
  | .inside awaited name columns => exact .inr ⟨_, _, _, _, rfl, .inside awaited name columns⟩
  | .outside awaited =>
      by_cases hbrace : ∃ name piece, awaited = some name ∧ trim line = '\x7b' :: piece
      · obtain ⟨name, piece, rfl, htrim⟩ := hbrace
        exact .inr ⟨_, _, _, _, readLine_brace name htrim, .brace htrim⟩
      · have hread : readLine (.outside awaited) line = readOutside awaited (trim line) := by
          rw [readLine]
          intro name piece htrim hawaited
          exact hbrace ⟨name, piece, hawaited, htrim⟩
        rw [hread]
        refine (readOutside_cases awaited line).imp_right ?_
        rintro ⟨name, piece, hpiece, hheader⟩
        exact ⟨_, _, _, _, hpiece, .header hheader⟩

/-! ## The columns of the tables -/

/-- Whether the columns of the table that is open, if one is, are well formed. -/
def Place.IsWellFormed : Place → Prop
  | .outside _ => True
  | .inside _ _ columns => ∀ c ∈ columns, c.IsWellFormed

/-- A line keeps the columns well formed, those of the place and those of the table that
it closes. -/
theorem readLine_isWellFormed {place : Place} {line : List Char} (hline : IsLine line)
    (hplace : place.IsWellFormed) :
    (readLine place line).1.IsWellFormed ∧
      ∀ t ∈ (readLine place line).2, ∀ c ∈ t.columns, c.IsWellFormed := by
  rcases readLine_cases place line with ⟨next, hread, -⟩ | ⟨awaited, name, columns, piece, hread, h⟩
  · rw [hread]
    exact ⟨trivial, by simp⟩
  · have hcolumns : ∀ c ∈ columns, c.IsWellFormed := by
      cases h with
      | inside => exact hplace
      | brace | header => simp
    have hpiece : piece ⊆ line := fun d hd => (trim_isInfix line).subset (h.suffix.subset hd)
    obtain ⟨added, hadded, hbody⟩ := readBody_cases awaited name columns piece
    have hall : ∀ c ∈ columns ++ added, c.IsWellFormed := by
      rw [List.forall_mem_append]
      refine ⟨hcolumns, fun c hc => ?_⟩
      obtain ⟨part, hpart, hbrace, hdeclares⟩ := hadded c hc
      exact Column.isWellFormed_of_read? (fun d hd => hline d (hpiece (hpart.subset hd))) hbrace
        hdeclares
    rw [hread]
    rcases hbody with hbody | hbody <;> rw [hbody]
    · exact ⟨hall, by simp⟩
    · refine ⟨trivial, ?_⟩
      rintro t ⟨⟩
      exact hall

theorem isWellFormed_of_mem_readTables {place : Place} {ls : List (List Char)} {t : Table}
    (hls : ∀ l ∈ ls, IsLine l) (hplace : place.IsWellFormed) (ht : t ∈ readTables place ls) :
    ∀ c ∈ t.columns, c.IsWellFormed := by
  induction ls generalizing place with
  | nil => cases ht
  | cons line rest ih =>
      rw [List.forall_mem_cons] at hls
      obtain ⟨hnext, hclosed⟩ := readLine_isWellFormed hls.1 hplace
      rw [readTables_cons, List.mem_append, Option.mem_toList] at ht
      rcases ht with ht | ht
      · exact hclosed t ht
      · exact ih hls.2 hnext ht

/-! ## The names of the tables -/

/-- Whether a run of lines has a header for a table of the given name: one with its brace
on the line, or one that waits under the name, and a later line that begins with a
brace. -/
def Heads (name : List Char) (ls : List (List Char)) : Prop :=
  ∃ line rest, line :: rest <:+ ls ∧
    ((∃ piece, readHeader? (trim line) = some (name, '\x7b' :: piece)) ∨
      (WaitsFor name line ∧ ∃ brace ∈ rest, ['\x7b'] <+: trim brace))

theorem Heads.cons {name : List Char} {ls : List (List Char)} (line : List Char)
    (h : Heads name ls) : Heads name (line :: ls) := by
  obtain ⟨header, rest, hsuffix, hheader⟩ := h
  exact ⟨header, rest, hsuffix.trans (List.suffix_cons line ls), hheader⟩

/-- The name under which the brace of an earlier header is awaited. -/
def Place.awaited : Place → Option (List Char)
  | .outside awaited => awaited
  | .inside awaited _ _ => awaited

theorem readBody_names (awaited : Option (List Char)) (name : List Char) (columns : List Column)
    (piece : List Char) :
    (∀ t ∈ (readBody awaited name columns piece).2, name = t.name.toList) ∧
      (readBody awaited name columns piece).1.awaited = awaited ∧
      ∀ other more columns', (readBody awaited name columns piece).1 = .inside other more columns' →
        name = more := by
  obtain ⟨added, -, hbody | hbody⟩ := readBody_cases awaited name columns piece <;> rw [hbody]
  · refine ⟨by simp, rfl, ?_⟩
    rintro _ _ _ ⟨⟩
    rfl
  · refine ⟨?_, rfl, fun _ _ _ hopen => by cases hopen⟩
    rintro t ⟨⟩
    exact String.toList_ofList.symm

/-- Where a table comes from that a run of lines read from a place may close: the place is
inside it, its brace is awaited there and comes, or its header is among the lines. -/
inductive Place.Origin (name : List Char) : Place → List (List Char) → Prop
  | opened (awaited : Option (List Char)) (columns : List Column) (ls : List (List Char)) :
      Origin name (.inside awaited name columns) ls
  | awaited {place : Place} {ls : List (List Char)} {brace : List Char}
      (h : place.awaited = some name) (hmem : brace ∈ ls) (hbrace : ['\x7b'] <+: trim brace) :
      Origin name place ls
  | headed {place : Place} {ls : List (List Char)} (h : Heads name ls) : Origin name place ls

section
variable {place : Place} {line piece name : List Char} {awaited : Option (List Char)}
variable {columns : List Column}

theorem ReadsPiece.origin (h : ReadsPiece line place awaited name columns piece)
    (rest : List (List Char)) : place.Origin name (line :: rest) := by
  cases h with
  | inside => exact .opened _ _ _
  | brace h =>
      have hbrace : ['\x7b'] <+: trim line := by
        rw [h]
        exact ⟨piece, rfl⟩
      exact .awaited rfl List.mem_cons_self hbrace
  | header h => exact .headed ⟨line, rest, List.suffix_rfl, .inl ⟨piece, h⟩⟩

theorem ReadsPiece.awaited_eq (h : ReadsPiece line place awaited name columns piece)
    {other : List Char} (hawaited : awaited = some other) : place.awaited = some other := by
  cases h with
  | inside | header => exact hawaited
  | brace => cases hawaited

theorem origin_of_mem_readLine {t : Table} (ht : t ∈ (readLine place line).2)
    (rest : List (List Char)) : place.Origin t.name.toList (line :: rest) := by
  rcases readLine_cases place line with
    ⟨_, hread, -⟩ | ⟨awaited, name, columns, piece, hread, hpiece⟩ <;> rw [hread] at ht
  · cases ht
  · obtain ⟨hclosed, -⟩ := readBody_names awaited name columns piece
    rw [← hclosed t ht]
    exact hpiece.origin rest

/-- An origin at the place behind a line is one at the place in front of it. -/
theorem Place.Origin.of_readLine {rest : List (List Char)}
    (h : (readLine place line).1.Origin name rest) : place.Origin name (line :: rest) := by
  rcases readLine_cases place line with
    ⟨next, hread, hnext⟩ | ⟨awaited, other, columns, piece, hread, hpiece⟩ <;> rw [hread] at h
  · cases h with
    | awaited hawaited hmem hbrace =>
        exact .headed ⟨line, rest, List.suffix_rfl, .inr ⟨hnext _ hawaited, _, hmem, hbrace⟩⟩
    | headed hheads => exact .headed (hheads.cons line)
  · obtain ⟨-, hawaits, hopens⟩ := readBody_names awaited other columns piece
    -- the place behind the line is named, so that the cases of the origin can be told apart
    generalize hbehind : (readBody awaited other columns piece).1 = behind at h hawaits
    cases h with
    | opened =>
        rw [← hopens _ _ _ hbehind]
        exact hpiece.origin rest
    | awaited hawaited hmem hbrace =>
        -- a table that is open keeps the brace of an earlier header awaited
        exact .awaited (hpiece.awaited_eq (hawaits.symm.trans hawaited))
          (List.mem_cons_of_mem line hmem) hbrace
    | headed hheads => exact .headed (hheads.cons line)

end

theorem origin_of_mem_readTables {place : Place} {ls : List (List Char)} {t : Table}
    (ht : t ∈ readTables place ls) : place.Origin t.name.toList ls := by
  induction ls generalizing place with
  | nil => cases ht
  | cons line rest ih =>
      rw [readTables_cons, List.mem_append, Option.mem_toList] at ht
      rcases ht with ht | ht
      · exact origin_of_mem_readLine ht rest
      · exact (ih ht).of_readLine

/-- Whether a trimmed line is a header with a lone brace for a name. -/
def IsBraceHeader (line : List Char) : Prop :=
  ∃ w, w ≠ [] ∧ (∀ c ∈ w, isBlank c = true) ∧ line = headerWord ++ (w ++ ['\x7b'])

theorem WaitsFor.isWord_or {name line : List Char} (h : WaitsFor name line) :
    IsWord name ∨ (name = [] ∧ IsBraceHeader (trim line)) := by
  obtain ⟨long, hheader, rfl⟩ := h
  obtain ⟨hlong, -, w, v, hne, hw, hv, hline⟩ := readHeader?_eq_some_iff.1 hheader
  rcases dropEndWhile_brace hlong with hname | rfl
  · rw [hname]
    exact .inl hlong.isWord
  · refine .inr ⟨rfl, w, hne, hw, ?_⟩
    -- the line is trimmed, and the blanks behind the brace with it
    have hblank : trimEnd v = [] := trimEnd_append_of_blank [] hv
    calc trim line = trimEnd (trim line) := (trimEnd_trimEnd _).symm
      _ = trimEnd (headerWord ++ w ++ '\x7b' :: v) := by rw [hline]; simp
      _ = headerWord ++ w ++ '\x7b' :: trimEnd v := trimEnd_append_cons _ v (by decide)
      _ = headerWord ++ (w ++ ['\x7b']) := by rw [hblank, List.append_assoc]

/-- Whether a run of lines has a header with a lone brace for a name, and a later line that
begins with a brace. -/
def HasNameless (ls : List (List Char)) : Prop :=
  ∃ line rest, line :: rest <:+ ls ∧ IsBraceHeader (trim line) ∧
    ∃ brace ∈ rest, ['\x7b'] <+: trim brace

theorem Heads.isWord_or {name : List Char} {ls : List (List Char)} (h : Heads name ls) :
    IsWord name ∨ (name = [] ∧ HasNameless ls) := by
  obtain ⟨line, rest, hsuffix, ⟨piece, hheader⟩ | ⟨hwaits, hbrace⟩⟩ := h
  · exact .inl (readHeader?_eq_some_iff.1 hheader).1.isWord
  · refine hwaits.isWord_or.imp_right ?_
    rintro ⟨hname, hlone⟩
    exact ⟨hname, line, rest, hsuffix, hlone, hbrace⟩

/-! ## The schema of a text -/

/-- What a schema that was read holds. The name of a table is a word, or it is empty and
the text has a header with a lone brace for a name. Columns are well formed, and the
parts of references are words. -/
theorem read_isWellFormed (text : String) :
    (∀ t ∈ (read text).tables,
      (IsWord t.name.toList ∨ (t.name = "" ∧ HasNameless (Text.lines text.toList))) ∧
        ∀ c ∈ t.columns, c.IsWellFormed) ∧
      ∀ r ∈ (read text).references, ∀ part ∈ r.parts, IsWord part.toList := by
  have hstart : Place.start.IsWellFormed := trivial
  refine ⟨fun t ht => ⟨?_, ?_⟩, fun r hr => ?_⟩
  · cases origin_of_mem_readTables ht with
    | awaited hawaited => cases hawaited
    | headed hheads => simpa using hheads.isWord_or
  · exact isWellFormed_of_mem_readTables (fun _ => isLine_of_mem_lines) hstart ht
  · obtain ⟨line, -, hfind⟩ := List.mem_filterMap.1 hr
    exact Reference.isWord_of_find? hfind

/-- A table without a name: the brace on the header line is taken for the name, and
dropped from it when the brace on the next line opens the table. -/
theorem read_nameless :
    ¬ ∀ t ∈ (read "Table \x7b\n\x7b\n  id UUID\n\x7d").tables, IsWord t.name.toList := by
  decide +kernel

end Schema

end RequestAtlas
