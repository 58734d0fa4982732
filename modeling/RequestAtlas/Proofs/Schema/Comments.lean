import RequestAtlas.Proofs.Schema.Body
import RequestAtlas.Proofs.Schema.Header
import RequestAtlas.Proofs.Text.Layout

/-!
# Comments behind the brace that opens a table

A comment may stand behind the brace that opens a table, on the header line or on the
line of the brace. It adds no column there, and if it begins right behind the brace it
does not end the table either, whatever it says. With blanks in front of it the reader
does not take it for a comment while it looks for the closing brace: what stands behind
the opening brace is not trimmed on its left, as a line inside the table is. So a
closing brace in such a comment ends the table, and its columns are read as lines
outside (`tables_read_comment`).
-/

namespace RequestAtlas.Schema

open Text

/-! ## A comment as a piece of a body -/

section
variable (awaited : Option (List Char)) (name : List Char) (columns : List Column)
variable {pad comment : List Char}

/-- A comment leaves the table open when no blank stands in front of it, or when it has
no closing brace. -/
theorem readBody_pad_comment (hpad : ∀ c ∈ pad, isBlank c = true)
    (h : pad = [] ∨ '\x7d' ∉ comment) :
    readBody awaited name columns (pad ++ (Column.commentMark ++ comment)) =
      (.inside awaited name columns, none) := by
  rcases h with rfl | hbrace
  · exact readBody_of_comment _ _ _ (List.prefix_append _ _)
  · have hpiece : '\x7d' ∉ pad ++ (Column.commentMark ++ comment) := by
      rw [List.mem_append, List.mem_append]
      rintro (hmem | hmem | hmem)
      · exact ne_of_isBlank (hpad _ hmem) (by decide) rfl
      · exact absurd hmem (by decide)
      · exact hbrace hmem
    rw [readBody_of_not_mem _ _ _ hpiece, Column.read?_comment pad comment hpad]
    simp

theorem readBody_pad_comment_of_mem (hpad : ∀ c ∈ pad, isBlank c = true) (hne : pad ≠ [])
    (hbrace : '\x7d' ∈ comment) :
    readBody awaited name columns (pad ++ (Column.commentMark ++ comment)) =
      (.outside awaited, some ⟨String.ofList name, columns⟩) := by
  have hcomment : ¬ Column.commentMark <+: pad ++ (Column.commentMark ++ comment) := by
    obtain ⟨c, pad, rfl⟩ := List.exists_cons_of_ne_nil hne
    intro hbegins
    exact ne_of_isBlank (hpad c (by simp)) (by decide) (List.cons_prefix_cons.1 hbegins).1.symm
  -- the brace is found behind the mark, so what it leaves is a comment still
  have hpass : ∀ c ∈ pad ++ Column.commentMark, (c != '\x7d') = true := by
    intro c hc
    rcases List.mem_append.1 hc with hc | hc
    · simpa using ne_of_isBlank (hpad c hc) (by decide : isBlank '\x7d' = false)
    · obtain rfl : c = '/' := by simpa [Column.commentMark] using hc
      rfl
  rw [readBody_of_mem _ _ _ hcomment (by simp [hbrace]), ← List.append_assoc,
    List.takeWhile_append_of_pos hpass, List.append_assoc, Column.read?_comment pad _ hpad]
  simp

end

/-! ## The two ways to open a table -/

/-- With the brace on the header line, or at the start of the next line. -/
def openings (name : String) : List String :=
  ["Table " ++ name ++ " \x7b", "Table " ++ name ++ "\n\x7b"]

/-- What stands behind the brace that opens a table is the first piece of its body, less
the blanks at the end of that line. -/
theorem tables_read_opening {name opening : String} (tail rest : String)
    (hname : IsWord name.toList) (hbrace : '\x7b' ∉ name.toList) (htail : IsLine tail.toList)
    (hopening : opening ∈ openings name) :
    let body := readBody none name.toList [] (trimEnd tail.toList)
    (read (opening ++ tail ++ "\n" ++ rest)).tables =
      body.2.toList ++ readTables body.1 (Text.lines rest.toList) := by
  intro body
  have hword : IsLine headerWord := headerWord_isWord.isLine
  have hspace : IsLine [' '] := by decide
  have hopen : IsLine ('\x7b' :: tail.toList) := isLine_cons.2 ⟨by decide, htail⟩
  rcases List.mem_pair.1 hopening with rfl | rfl
  · have htext : ("Table " ++ name ++ " \x7b" ++ tail ++ "\n" ++ rest).toList =
        (headerWord ++ ([' '] ++ (name.toList ++ ([' '] ++ '\x7b' :: tail.toList)))) ++
          '\n' :: rest.toList := by
      simp [headerWord]
    have hline : IsLine
        (headerWord ++ ([' '] ++ (name.toList ++ ([' '] ++ '\x7b' :: tail.toList)))) := by
      simp only [isLine_append]
      exact ⟨hword, hspace, hname.isLine, hspace, hopen⟩
    rw [read, htext, lines_append_cons _ hline, readTables_cons,
      readLine_header_brace _ hname hbrace]
  · have htext : ("Table " ++ name ++ "\n\x7b" ++ tail ++ "\n" ++ rest).toList =
        (headerWord ++ ([' '] ++ name.toList)) ++
          '\n' :: (('\x7b' :: tail.toList) ++ '\n' :: rest.toList) := by
      simp [headerWord]
    have hline : IsLine (headerWord ++ ([' '] ++ name.toList)) := by
      simp only [isLine_append]
      exact ⟨hword, hspace, hname.isLine⟩
    rw [read, htext, lines_append_cons _ hline, lines_append_cons _ hopen, readTables_cons,
      readTables_cons, readLine_header hname hbrace, readLine_brace_tail]
    rfl

/-- A comment behind the brace that opens a table leaves the tables as they are when it
begins right behind the brace or has no closing brace. Otherwise the table ends there,
with no column, and the rest of the text is read outside. -/
theorem tables_read_comment (name pad comment rest : String) (hname : IsWord name.toList)
    (hbrace : '\x7b' ∉ name.toList) (hpad : IsPadding pad.toList)
    (hcomment : IsLine comment.toList) :
    ∀ opening ∈ openings name,
      (pad = "" ∨ '\x7d' ∉ comment.toList →
        (read (opening ++ pad ++ "//" ++ comment ++ "\n" ++ rest)).tables =
          (read (opening ++ "\n" ++ rest)).tables) ∧
      (pad ≠ "" → '\x7d' ∈ comment.toList →
        (read (opening ++ pad ++ "//" ++ comment ++ "\n" ++ rest)).tables =
          ⟨name, []⟩ :: (read rest).tables) := by
  intro opening hopening
  have htext : opening ++ pad ++ "//" ++ comment = opening ++ (pad ++ "//" ++ comment) := by
    rw [String.append_assoc, String.append_assoc, String.append_assoc]
  have htail : IsLine (pad ++ "//" ++ comment).toList := by
    simp only [String.toList_append, isLine_append]
    exact ⟨⟨hpad.isLine, by decide⟩, hcomment⟩
  have htrim : trimEnd (pad ++ "//" ++ comment).toList =
      pad.toList ++ (Column.commentMark ++ trimEnd comment.toList) := by
    have hmark := trimEnd_append_cons (pad.toList ++ ['/']) comment.toList
      (by decide : isBlank '/' = false)
    simpa [Column.commentMark] using hmark
  have hread := tables_read_opening (pad ++ "//" ++ comment) rest hname hbrace htail hopening
  rw [htrim, ← htext] at hread
  rw [hread]
  refine ⟨fun h => ?_, fun hne hmem => ?_⟩
  · have hopen := tables_read_opening "" rest hname hbrace (by decide) hopening
    have h' : pad.toList = [] ∨ '\x7d' ∉ trimEnd comment.toList :=
      h.imp (by simp) (mt (mem_trimEnd_iff (by decide)).1)
    rw [readBody_pad_comment _ _ _ hpad.blank h']
    rw [String.append_empty] at hopen
    rw [hopen]
    rfl
  · have hne' : pad.toList ≠ [] := by simpa using hne
    rw [readBody_pad_comment_of_mem _ _ _ hpad.blank hne' ((mem_trimEnd_iff (by decide)).2 hmem),
      String.ofList_toList]
    rfl

/-- A comment that speaks of a closing brace, with a space in front of it, in the two
places. The column of the table is lost with both. -/
theorem tables_read_comment_spaced :
    let rest := "  id UUID\n\x7d"
    IsWord "users".toList ∧ '\x7b' ∉ "users".toList ∧ IsPadding " ".toList ∧
      IsLine " up to \x7d".toList ∧ '\x7d' ∈ " up to \x7d".toList ∧
      ∀ opening ∈ openings "users",
        (read (opening ++ " " ++ "//" ++ " up to \x7d" ++ "\n" ++ rest)).tables =
          ⟨"users", []⟩ :: (read rest).tables := by
  intro rest
  have hname : IsWord "users".toList := by decide +kernel
  have hbrace : '\x7b' ∉ "users".toList := by decide +kernel
  have hpad : IsPadding " ".toList := by decide +kernel
  have hcomment : IsLine " up to \x7d".toList := by decide +kernel
  have hmem : '\x7d' ∈ " up to \x7d".toList := by decide +kernel
  refine ⟨hname, hbrace, hpad, hcomment, hmem, fun opening hopening => ?_⟩
  exact (tables_read_comment "users" " " " up to \x7d" rest hname hbrace hpad hcomment opening
    hopening).2 (by decide) hmem

/-- Not every comment behind the brace leaves the tables as they are: with the one here
the table has lost the column that it has without. -/
theorem comment_ends_table :
    IsWord "users".toList ∧ '\x7b' ∉ "users".toList ∧ IsPadding " ".toList ∧
      IsLine " see \x7d".toList ∧
      (read ("Table users \x7b" ++ " " ++ "//" ++ " see \x7d" ++ "\n" ++
        "  id UUID\n\x7d")).tables ≠
          (read ("Table users \x7b" ++ "\n" ++ "  id UUID\n\x7d")).tables := by
  decide +kernel

end RequestAtlas.Schema
