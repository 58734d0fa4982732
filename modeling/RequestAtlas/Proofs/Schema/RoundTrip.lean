import RequestAtlas.Proofs.Schema.Header
import RequestAtlas.Proofs.Schema.Reference
import RequestAtlas.Schema.Basic
import RequestAtlas.Schema.Reader

/-!
# What is written is read again

A schema that is written and then read is the same schema, with its tables,
columns and references in their order and as often as they were there
(`read_print`). Not every schema can be written: a name with a blank in it, or a
type with a line break, would be read as something else. `Schema.IsPlain` says
which can.

The reader goes through the text twice, once for the tables and once for the
references, so the proof has two halves. For the tables, each line that is written
moves the reader to a known place: the header opens the table, a column line adds
its column, the brace closes the table, and the line of a reference leaves the
reader outside. An induction over the columns and one over the tables put these
steps together. For the references, the line of a reference is read back, and no
other line holds the mark that every reference begins with.
-/

namespace RequestAtlas

open Text

/-- Whether a column can be written: its name and its type are told apart by the
first blank, and its line is neither a comment nor a note nor the end of a
table. -/
structure Column.IsPlain (c : Column) : Prop where
  name_isWord : IsWord c.name.toList
  name_brace : '\x7d' ∉ c.name.toList
  name_comment : ¬ commentMark <+: c.name.toList
  name_note : ¬ noteMark <+: c.name.toList
  name_mark : ¬ Reference.mark <:+: c.name.toList
  type_ne : c.type ≠ ""
  type_trim : trimString c.type = c.type
  type_brace : '\x7d' ∉ c.type.toList
  type_isLine : IsLine c.type.toList
  type_mark : ¬ Reference.mark <:+: c.type.toList

instance (c : Column) : Decidable c.IsPlain :=
  letI := decidableInfix
  decidable_of_iff
    (IsWord c.name.toList ∧ '\x7d' ∉ c.name.toList ∧ ¬ Column.commentMark <+: c.name.toList ∧
      ¬ Column.noteMark <+: c.name.toList ∧ ¬ Reference.mark <:+: c.name.toList ∧ c.type ≠ "" ∧
      trimString c.type = c.type ∧ '\x7d' ∉ c.type.toList ∧
      IsLine c.type.toList ∧ ¬ Reference.mark <:+: c.type.toList)
    ⟨fun ⟨h₁, h₂, h₃, h₄, h₅, h₆, h₇, h₈, h₉, h₁₀⟩ => ⟨h₁, h₂, h₃, h₄, h₅, h₆, h₇, h₈, h₉, h₁₀⟩,
      fun ⟨h₁, h₂, h₃, h₄, h₅, h₆, h₇, h₈, h₉, h₁₀⟩ => ⟨h₁, h₂, h₃, h₄, h₅, h₆, h₇, h₈, h₉, h₁₀⟩⟩

/-- Whether a table can be written. -/
structure Table.IsPlain (t : Table) : Prop where
  name_isWord : IsWord t.name.toList
  name_brace : '\x7b' ∉ t.name.toList
  name_mark : ¬ Reference.mark <:+: t.name.toList
  columns : ∀ c ∈ t.columns, c.IsPlain

instance (t : Table) : Decidable t.IsPlain :=
  letI := decidableInfix
  decidable_of_iff
    (IsWord t.name.toList ∧ '\x7b' ∉ t.name.toList ∧ ¬ Reference.mark <:+: t.name.toList ∧
      ∀ c ∈ t.columns, c.IsPlain)
    ⟨fun ⟨h₁, h₂, h₃, h₄⟩ => ⟨h₁, h₂, h₃, h₄⟩, fun ⟨h₁, h₂, h₃, h₄⟩ => ⟨h₁, h₂, h₃, h₄⟩⟩

/-- Whether a reference can be written: its parts are told apart by dots and
blanks. An arrow in a part does no harm. -/
def Reference.IsPlain (r : Reference) : Prop :=
  ∀ part ∈ r.parts, IsWord part.toList ∧ '.' ∉ part.toList

instance (r : Reference) : Decidable r.IsPlain :=
  inferInstanceAs (Decidable (∀ part ∈ r.parts, _))

/-- Whether a schema can be written. -/
structure Schema.IsPlain (s : Schema) : Prop where
  tables : ∀ t ∈ s.tables, t.IsPlain
  references : ∀ r ∈ s.references, r.IsPlain

instance (s : Schema) : Decidable s.IsPlain :=
  decidable_of_iff ((∀ t ∈ s.tables, t.IsPlain) ∧ ∀ r ∈ s.references, r.IsPlain)
    ⟨fun ⟨h₁, h₂⟩ => ⟨h₁, h₂⟩, fun ⟨h₁, h₂⟩ => ⟨h₁, h₂⟩⟩

/-! ## The line of a column -/

namespace Column

variable {c : Column}

/-- The line of a column behind its indentation. -/
def line (c : Column) : List Char :=
  c.name.toList ++ ' ' :: c.type.toList

theorem toList_print (c : Column) : c.print.toList = ' ' :: ' ' :: c.line := by
  simp [print, line]

theorem IsPlain.toList_type_ne (h : c.IsPlain) : c.type.toList ≠ [] := by
  simpa using h.type_ne

theorem IsPlain.trim_type (h : c.IsPlain) :
    trimStart c.type.toList = c.type.toList ∧ trimEnd c.type.toList = c.type.toList := by
  have htrim := congrArg String.toList h.type_trim
  rw [trimString, String.toList_ofList] at htrim
  exact trim_eq_self_iff.1 htrim

theorem IsPlain.trim_line (h : c.IsPlain) : trim c.line = c.line := by
  have hstart : trimStart c.line = c.line := h.name_isWord.trimStart_append _
  have hend : trimEnd c.line = c.line := by
    rw [line, List.append_cons]
    exact trimEnd_append _ h.toList_type_ne h.trim_type.2
  exact trim_eq_self_iff.2 ⟨hstart, hend⟩

theorem IsPlain.trim_print (h : c.IsPlain) : trim c.print.toList = c.line := by
  rw [toList_print, trim, trimStart_space, trimStart_space]
  exact h.trim_line

theorem IsPlain.not_startsWith_line (h : c.IsPlain) :
    startsWith commentMark c.line = false ∧ startsWith noteMark c.line = false := by
  constructor
  · rw [Bool.eq_false_iff, ne_eq, startsWith_iff]
    exact fun hprefix => h.name_comment (prefix_of_prefix_append_space (by decide) hprefix)
  · rw [Bool.eq_false_iff, ne_eq, startsWith_iff]
    exact fun hprefix => h.name_note (prefix_of_prefix_append_space (by decide) hprefix)

theorem IsPlain.brace_not_mem_line (h : c.IsPlain) : '\x7d' ∉ c.line := by
  rw [line, List.mem_append, List.mem_cons]
  rintro (hname | hspace | htype)
  · exact h.name_brace hname
  · exact absurd hspace (by decide)
  · exact h.type_brace htype

/-- The line of a column declares the column. -/
theorem IsPlain.read?_line (h : c.IsPlain) : read? c.line = some c := by
  have hne : c.line.isEmpty = false := by simp [line]
  have htype : c.type.toList.isEmpty = false := by simpa using h.type_ne
  rw [read?, h.trim_line]
  simp only [hne, h.not_startsWith_line.1, h.not_startsWith_line.2, Bool.or_self,
    Bool.false_eq_true, if_false]
  rw [line, cutWord_append h.name_isWord h.trim_type.1]
  simp only [htype, Bool.false_eq_true, if_false, String.ofList_toList]

theorem IsPlain.isLine_print (h : c.IsPlain) : IsLine c.print.toList := by
  have hspace : isLineBreak ' ' = false := by decide
  simp only [toList_print, line, isLine_cons, isLine_append, hspace, true_and]
  exact ⟨h.name_isWord.isLine, h.type_isLine⟩

end Column

/-! ## The tables -/

namespace Schema

theorem readLine_column {name : List Char} {columns : List Column} {c : Column}
    (h : c.IsPlain) :
    readLine (.inside none name columns) c.print.toList =
      (.inside none name (columns ++ [c]), none) := by
  have hbrace : c.line.contains '\x7d' = false := by simpa using h.brace_not_mem_line
  rw [readLine, h.trim_print, readBody, h.not_startsWith_line.1, hbrace, h.read?_line]
  rfl

theorem readLine_close (name : List Char) (columns : List Column) :
    readLine (.inside none name columns) ['\x7d'] =
      (.outside none, some ⟨String.ofList name, columns⟩) := by
  have htrim : trim ['\x7d'] = ['\x7d'] := by decide
  have hlast : Column.read? (['\x7d'].takeWhile (· != '\x7d')) = none := by decide
  rw [readLine, htrim, readBody, if_neg (by decide), if_pos (by decide), hlast]
  simp

/-- The lines of columns add the columns. -/
theorem readTables_columns (name : List Char) (columns added : List Column)
    (rest : List (List Char)) (h : ∀ c ∈ added, c.IsPlain) :
    readTables (.inside none name columns) (added.map (·.print.toList) ++ rest) =
      readTables (.inside none name (columns ++ added)) rest := by
  induction added generalizing columns with
  | nil => simp
  | cons c added ih =>
      rw [List.map_cons, List.cons_append, readTables, readLine_column (h c (by simp))]
      have hrest := ih (columns ++ [c]) fun d hd => h d (List.mem_cons_of_mem c hd)
      rw [List.append_assoc, List.singleton_append] at hrest
      simpa using hrest

end Schema

namespace Table

/-- The line that opens a table. -/
def headerLine (t : Table) : List Char :=
  Schema.headerWord ++ ' ' :: (t.name.toList ++ [' ', '\x7b'])

theorem map_toList_print (t : Table) :
    t.print.map String.toList =
      t.headerLine :: (t.columns.map (·.print.toList) ++ [['\x7d']]) := by
  simp [print, headerLine, Schema.headerWord, Function.comp_def]

end Table

namespace Schema

theorem readLine_headerLine {t : Table} (h : t.IsPlain) :
    readLine .start t.headerLine = (.inside none t.name.toList [], none) :=
  readLine_header_brace [] h.name_isWord h.name_brace

/-- The lines of a table close the table and nothing else. -/
theorem readTables_table {t : Table} (rest : List (List Char)) (h : t.IsPlain) :
    readTables .start (t.print.map String.toList ++ rest) = t :: readTables .start rest := by
  rw [Table.map_toList_print, List.cons_append, readTables, readLine_headerLine h]
  show readTables (.inside none t.name.toList []) _ = _
  rw [List.append_assoc, readTables_columns _ _ _ _ h.columns, List.singleton_append, readTables,
    readLine_close]
  simp [Place.start]

theorem readTables_tables {ts : List Table} (rest : List (List Char))
    (h : ∀ t ∈ ts, t.IsPlain) :
    readTables .start ((ts.flatMap Table.print).map String.toList ++ rest) =
      ts ++ readTables .start rest := by
  induction ts with
  | nil => rfl
  | cons t ts ih =>
      rw [List.flatMap_cons, List.map_append, List.append_assoc,
        readTables_table _ (h t (by simp)), ih fun u hu => h u (List.mem_cons_of_mem t hu)]
      rfl

end Schema

/-! ## The references -/

namespace Reference

variable {r : Reference}

/-- What stands behind the mark in the line of a reference. -/
def body (r : Reference) : List Char :=
  r.fromTable.toList ++ '.' :: (r.fromColumn.toList ++ ' ' :: '>' :: ' ' ::
    (r.toTable.toList ++ '.' :: r.toColumn.toList))

theorem toList_print (r : Reference) : r.print.toList = mark ++ ' ' :: r.body := by
  simp [print, mark, body]

theorem IsPlain.afterArrow (h : r.IsPlain) :
    afterArrow (readEnd fun _ => some ())
        (' ' :: '>' :: ' ' :: (r.toTable.toList ++ '.' :: r.toColumn.toList)) =
      some (r.toTable.toList, r.toColumn.toList, ()) := by
  obtain ⟨hto, -⟩ := h r.toTable (by simp [parts])
  obtain ⟨htoColumn, hdot⟩ := h r.toColumn (by simp [parts])
  have hread : readEnd (fun _ => some ())
      (r.toTable.toList ++ '.' :: (r.toColumn.toList ++ [])) =
      some (r.toTable.toList, r.toColumn.toList, ()) :=
    readEnd_append hto htoColumn hdot rfl (by simp)
  rw [List.append_nil] at hread
  rw [Reference.afterArrow, trimStart_space, trimStart_cons_of_not_blank _ (by decide)]
  show readEnd (fun _ => some ()) (trimStart (' ' :: _)) = _
  rw [trimStart_space, hto.trimStart_append, hread]

theorem IsPlain.readBody? (h : r.IsPlain) : readBody? (' ' :: r.body) = some r := by
  obtain ⟨hfrom, -⟩ := h r.fromTable (by simp [parts])
  obtain ⟨hfromColumn, hdot⟩ := h r.fromColumn (by simp [parts])
  have htrim : trimStart (' ' :: r.body) = r.body := by
    rw [trimStart_space]
    exact hfrom.trimStart_append _
  have hspace : ∀ c ∈ (' ' :: '>' :: ' ' ::
      (r.toTable.toList ++ '.' :: r.toColumn.toList)).head?, isBlank c = true := by
    rintro c ⟨⟩
    decide
  have hread := readEnd_append hfrom hfromColumn hdot h.afterArrow hspace
  rw [Reference.readBody?, htrim, body, hread]
  simp

theorem IsPlain.find?_print (h : r.IsPlain) : find? r.print.toList = some r := by
  rw [toList_print]
  exact find?_mark h.readBody?

theorem IsPlain.trim_print (h : r.IsPlain) : trim r.print.toList = r.print.toList := by
  obtain ⟨htoColumn, -⟩ := h r.toColumn (by simp [parts])
  have hlast : r.print.toList =
      (mark ++ ' ' :: (r.fromTable.toList ++ '.' :: (r.fromColumn.toList ++ ' ' :: '>' :: ' ' ::
        (r.toTable.toList ++ ['.'])))) ++ r.toColumn.toList := by
    simp [toList_print, body]
  refine trim_eq_self_iff.2 ⟨?_, ?_⟩
  · rw [toList_print]
    exact trimStart_cons_of_not_blank _ (by decide)
  · rw [hlast]
    exact htoColumn.trimEnd_append _

theorem IsPlain.isLine_print (h : r.IsPlain) : IsLine r.print.toList := by
  have hmark : IsLine mark := by decide
  have hparts : ∀ part ∈ r.parts, IsLine part.toList := fun part hpart => (h part hpart).1.isLine
  have hspace : isLineBreak ' ' = false := by decide
  have hdot : isLineBreak '.' = false := by decide
  have harrow : isLineBreak '>' = false := by decide
  simp only [toList_print, body, isLine_cons, isLine_append, hspace, hdot, harrow, true_and]
  exact ⟨hmark, hparts _ (by simp [parts]), hparts _ (by simp [parts]),
    hparts _ (by simp [parts]), hparts _ (by simp [parts])⟩

end Reference

/-! ## The lines of tables hold no reference -/

theorem Column.IsPlain.find?_print {c : Column} (h : c.IsPlain) :
    Reference.find? c.print.toList = none := by
  have hblank : ' ' ∉ Reference.mark := by decide
  have hne : Reference.mark ≠ [] := by decide
  have hline : ¬ Reference.mark <:+: c.line := by
    rw [line, infix_append_space_iff hne hblank, not_or]
    exact ⟨h.name_mark, h.type_mark⟩
  have hindent : ∀ s, ¬ Reference.mark <:+: s → ¬ Reference.mark <:+: ' ' :: s := by
    intro s hs hinfix
    rcases (infix_append_space_iff (s := []) hne hblank).1 hinfix with hnil | hinfix
    · exact hne (List.infix_nil.1 hnil)
    · exact hs hinfix
  rw [toList_print]
  exact Reference.find?_eq_none (hindent _ (hindent _ hline))

theorem Table.IsPlain.find?_headerLine {t : Table} (h : t.IsPlain) :
    Reference.find? t.headerLine = none := by
  have hblank : ' ' ∉ Reference.mark := by decide
  have hne : Reference.mark ≠ [] := by decide
  refine Reference.find?_eq_none ?_
  rw [headerLine, infix_append_space_iff hne hblank, infix_append_space_iff hne hblank, not_or,
    not_or]
  refine ⟨fun hinfix => ?_, h.name_mark, fun hinfix => ?_⟩
  · exact absurd hinfix (by decide)
  · exact absurd hinfix (by decide)

theorem Table.IsPlain.find?_print {t : Table} (h : t.IsPlain) :
    ∀ line ∈ t.print.map String.toList, Reference.find? line = none := by
  intro line hline
  rw [map_toList_print, List.mem_cons, List.mem_append, List.mem_singleton] at hline
  rcases hline with rfl | hline | rfl
  · exact h.find?_headerLine
  · obtain ⟨c, hc, rfl⟩ := List.mem_map.1 hline
    exact (h.columns c hc).find?_print
  · decide

/-! ## The text -/

theorem Table.IsPlain.isLine_headerLine {t : Table} (h : t.IsPlain) : IsLine t.headerLine := by
  have hword : IsLine Schema.headerWord := by decide
  have hspace : isLineBreak ' ' = false := by decide
  have hend : IsLine [' ', '\x7b'] := by decide
  rw [headerLine, isLine_append, isLine_cons, isLine_append]
  exact ⟨hword, hspace, h.name_isWord.isLine, hend⟩

theorem Table.IsPlain.isLine_print {t : Table} (h : t.IsPlain) :
    ∀ line ∈ t.print.map String.toList, line ≠ [] ∧ IsLine line := by
  intro line hline
  rw [map_toList_print, List.mem_cons, List.mem_append, List.mem_singleton] at hline
  rcases hline with rfl | hline | rfl
  · exact ⟨by simp [headerLine], h.isLine_headerLine⟩
  · obtain ⟨c, hc, rfl⟩ := List.mem_map.1 hline
    exact ⟨by simp [Column.toList_print], (h.columns c hc).isLine_print⟩
  · decide

namespace Schema

theorem readLine_reference {r : Reference} (h : r.IsPlain) :
    readLine .start r.print.toList = (.start, none) := by
  have hheader : readHeader? (Reference.mark ++ ' ' :: r.body) = none := by
    simp [readHeader?, Reference.mark, headerWord, afterStart?]
  rw [readLine_start, h.trim_print, Reference.toList_print, readOutside, hheader]
  rfl

theorem readTables_references {rs : List Reference} (h : ∀ r ∈ rs, r.IsPlain) :
    readTables .start ((rs.map Reference.print).map String.toList) = [] := by
  induction rs with
  | nil => rfl
  | cons r rs ih =>
      rw [List.map_cons, List.map_cons, readTables, readLine_reference (h r (by simp))]
      exact ih fun q hq => h q (List.mem_cons_of_mem r hq)

theorem filterMap_references {rs : List Reference} (h : ∀ r ∈ rs, r.IsPlain) :
    ((rs.map Reference.print).map String.toList).filterMap Reference.find? = rs := by
  induction rs with
  | nil => rfl
  | cons r rs ih =>
      have hr : Reference.find? r.print.toList = some r := (h r (by simp)).find?_print
      rw [List.map_cons, List.map_cons, List.filterMap_cons_some hr,
        ih fun q hq => h q (List.mem_cons_of_mem r hq)]

/-- The lines of a schema's text. -/
def printedLines (s : Schema) : List (List Char) :=
  (s.tables.flatMap Table.print).map String.toList ++
    (s.references.map Reference.print).map String.toList

theorem toList_print (s : Schema) : s.print.toList = ['\n'].intercalate s.printedLines := by
  rw [print, String.toList_intercalate, List.map_append]
  rfl

theorem IsPlain.lines_print {s : Schema} (h : s.IsPlain) :
    Text.lines s.print.toList = s.printedLines := by
  have hlines : ∀ line ∈ s.printedLines, line ≠ [] ∧ IsLine line := by
    intro line hline
    rcases List.mem_append.1 hline with hline | hline
    · obtain ⟨text, htext, rfl⟩ := List.mem_map.1 hline
      obtain ⟨t, ht, htext⟩ := List.mem_flatMap.1 htext
      exact (h.tables t ht).isLine_print _ (List.mem_map_of_mem htext)
    · obtain ⟨text, htext, rfl⟩ := List.mem_map.1 hline
      obtain ⟨r, hr, rfl⟩ := List.mem_map.1 htext
      exact ⟨by simp [Reference.toList_print], (h.references r hr).isLine_print⟩
  rw [toList_print]
  exact lines_intercalate (fun line hline => (hlines line hline).1)
    fun line hline => (hlines line hline).2

theorem IsPlain.readTables_printedLines {s : Schema} (h : s.IsPlain) :
    readTables .start s.printedLines = s.tables := by
  rw [printedLines, readTables_tables _ h.tables, readTables_references h.references,
    List.append_nil]

theorem IsPlain.filterMap_printedLines {s : Schema} (h : s.IsPlain) :
    s.printedLines.filterMap Reference.find? = s.references := by
  have htables : ((s.tables.flatMap Table.print).map String.toList).filterMap
      Reference.find? = [] := by
    refine List.filterMap_eq_nil_iff.2 fun line hline => ?_
    obtain ⟨text, htext, rfl⟩ := List.mem_map.1 hline
    obtain ⟨t, ht, htext⟩ := List.mem_flatMap.1 htext
    exact (h.tables t ht).find?_print _ (List.mem_map_of_mem htext)
  rw [printedLines, List.filterMap_append, htables, filterMap_references h.references,
    List.nil_append]

/-- Reading what a schema is written as gives the schema back: the same tables,
columns, types and references in the same order, each as often as it was there. -/
theorem read_print (s : Schema) (h : s.IsPlain) : read s.print = s := by
  rw [read, h.lines_print, h.readTables_printedLines, h.filterMap_printedLines]

/-- Tables of one name, one of them without columns; a column that begins like a
note and one whose type looks like a comment; and a reference that is there twice,
with an arrow in one of its parts. -/
theorem read_print_repeated :
    let columns : List Column :=
      [⟨"id", "UUID [pk, not null]"⟩, ⟨"Not", "e: Ref"⟩, ⟨"\x7bx", "// \x7b"⟩]
    let reference : Reference := ⟨"users", "id", "ghost", "a->b"⟩
    let s : Schema :=
      ⟨[⟨"users", columns⟩, ⟨"Table", []⟩, ⟨"users", []⟩], [reference, reference]⟩
    s.IsPlain ∧ read s.print = s := by
  intro columns reference s
  have hplain : s.IsPlain := by decide +kernel
  exact ⟨hplain, read_print s hplain⟩

end Schema

end RequestAtlas
