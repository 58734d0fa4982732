import RequestAtlas.Proofs.Text.Cuts
import RequestAtlas.Schema.Reader

/-!
# What a piece of a table's body does

The body of a table comes in pieces: the lines inside the table, and what stands behind
the brace that opens it. A piece with no closing brace adds the column it declares, if
it declares one (`readBody_of_not_mem`); with one it may end the table
(`readBody_cases`). What is declared can be read off the piece once it is trimmed: a
column unless it is empty, a comment or a note (`Column.read?_eq_none_iff`).

A comment is told in two places, at the start of the piece and at the start of what is
left when the piece is trimmed. Only the first stops the reader from looking for the
closing brace.
-/

namespace RequestAtlas

open Text

namespace Column

theorem commentMark_isWord : IsWord commentMark := by decide

/-- What a piece declares when it is trimmed: a word and the text behind it, unless it is
empty, a comment or a note. -/
theorem read?_eq_some_iff {piece : List Char} {c : Column} :
    read? piece = some c ↔
      ¬ (trim piece = [] ∨ commentMark <+: trim piece ∨ noteMark <+: trim piece) ∧
        c = ⟨String.ofList (cutWord (trim piece)).1,
          if (cutWord (trim piece)).2.isEmpty then defaultType
          else String.ofList (cutWord (trim piece)).2⟩ := by
  rw [read?, ← startsWith_iff, ← startsWith_iff]
  dsimp only
  split
  · next h =>
      rw [Bool.or_eq_true, Bool.or_eq_true, List.isEmpty_iff, or_assoc] at h
      simp [h]
  · next h =>
      rw [Bool.or_eq_true, Bool.or_eq_true, List.isEmpty_iff, or_assoc] at h
      exact ⟨fun hc => ⟨h, (Option.some.inj hc).symm⟩, fun hc => by rw [hc.2]⟩

theorem read?_eq_none_iff {piece : List Char} :
    read? piece = none ↔
      trim piece = [] ∨ commentMark <+: trim piece ∨ noteMark <+: trim piece := by
  rw [Option.eq_none_iff_forall_ne_some]
  constructor
  · intro h
    by_contra hdeclares
    exact h _ (read?_eq_some_iff.2 ⟨hdeclares, rfl⟩)
  · intro h c hc
    exact (read?_eq_some_iff.1 hc).1 h

theorem read?_comment (pad comment : List Char)
    (hpad : ∀ c ∈ pad, isBlank c = true) : read? (pad ++ (commentMark ++ comment)) = none := by
  have htrim : trim (pad ++ (commentMark ++ comment)) = commentMark ++ trimEnd comment := by
    rw [trim, trimStart_append_of_blank _ hpad]
    exact commentMark_isWord.trim_append comment
  exact read?_eq_none_iff.2 (.inr (.inl (htrim ▸ List.prefix_append _ _)))

end Column

namespace Schema

variable (awaited : Option (List Char)) (name : List Char) (columns : List Column)
variable {piece : List Char}

theorem readBody_of_comment (h : Column.commentMark <+: piece) :
    readBody awaited name columns piece = (.inside awaited name columns, none) := by
  rw [readBody, if_pos (startsWith_iff.2 h)]

/-- A piece without closing brace adds the column that it declares, if any. -/
theorem readBody_of_not_mem (h : '\x7d' ∉ piece) :
    readBody awaited name columns piece =
      (.inside awaited name (columns ++ (Column.read? piece).toList), none) := by
  by_cases hcomment : Column.commentMark <+: piece
  · obtain ⟨comment, rfl⟩ := hcomment
    have hread : Column.read? (Column.commentMark ++ comment) = none :=
      Column.read?_comment [] comment (by simp)
    rw [readBody_of_comment _ _ _ (List.prefix_append _ _), hread]
    simp
  · rw [readBody, if_neg (mt startsWith_iff.1 hcomment), if_neg (by simpa using h)]

theorem readBody_of_mem (hcomment : ¬ Column.commentMark <+: piece) (h : '\x7d' ∈ piece) :
    readBody awaited name columns piece =
      (.outside awaited, some ⟨String.ofList name,
        columns ++ (Column.read? (piece.takeWhile (· != '\x7d'))).toList⟩) := by
  rw [readBody, if_neg (mt startsWith_iff.1 hcomment), if_pos (by simpa using h)]

/-- All that a piece can do: it adds columns that it declares in front of its closing
brace, and it ends the table or does not. -/
theorem readBody_cases (piece : List Char) :
    ∃ added : List Column,
      (∀ c ∈ added, ∃ part, part <+: piece ∧ '\x7d' ∉ part ∧ Column.read? part = some c) ∧
        (readBody awaited name columns piece = (.inside awaited name (columns ++ added), none) ∨
          readBody awaited name columns piece =
            (.outside awaited, some ⟨String.ofList name, columns ++ added⟩)) := by
  by_cases hbrace : '\x7d' ∈ piece
  · by_cases hcomment : Column.commentMark <+: piece
    · refine ⟨[], by simp, .inl ?_⟩
      rw [readBody_of_comment _ _ _ hcomment, List.append_nil]
    · refine ⟨_, fun c hc => ?_, .inr (readBody_of_mem _ _ _ hcomment hbrace)⟩
      refine ⟨_, List.takeWhile_prefix _, fun hmem => ?_, Option.mem_toList.1 hc⟩
      simpa using List.mem_takeWhile_imp hmem
  · refine ⟨_, fun c hc => ?_, .inl (readBody_of_not_mem _ _ _ hbrace)⟩
    exact ⟨piece, List.prefix_rfl, hbrace, Option.mem_toList.1 hc⟩

end Schema

end RequestAtlas
