import Mathlib.Data.List.Forall2
import RequestAtlas.Proofs.Text.Cuts

/-!
# The lines of a text that is put together or laid out anew

Three ways to make a text from others, and what each does to the lines. Two texts
joined by a line feed have the lines of the one and then those of the other, with an
empty line between them just if the first text has ended its last line itself
(`lines_append_lineFeed`): a carriage return at its end is made whole by the line
feed, and any other break is a break of its own. Carriage returns in front of the line
feeds change no line (`lines_withReturns`). Spaces and tabs at the ends of lines widen
the lines they stand in and no others (`Padded.forall₂_lines`).

The last piece of a text is a line only when it has characters, so padding can add a
line at the very end. The pieces are compared behind a line feed that closes the last
one in either text.
-/

namespace RequestAtlas.Text

/-! ## Every text -/

theorem consHead_ne_nil (c : Char) (ls : List (List Char)) : consHead c ls ≠ [] := by
  cases ls <;> simp [consHead]

theorem lines_ne_nil {s : List Char} (h : s ≠ []) : lines s ≠ [] := by
  fun_cases lines s with
  | case1 => exact absurd rfl h
  | case2 => simp
  | case3 => simp
  | case4 => exact consHead_ne_nil _ _

theorem isLine_of_mem_lines {s l : List Char} (h : l ∈ lines s) : IsLine l := by
  have hnil : IsLine [] := fun c hc => absurd hc (by simp)
  induction s using lines.induct generalizing l with
  | case1 => cases h
  | case2 r ih =>
      rcases List.mem_cons.1 h with rfl | h
      · exact hnil
      · exact ih h
  | case3 c r hpair hc ih =>
      rw [lines.eq_3 c r hpair, if_pos hc] at h
      rcases List.mem_cons.1 h with rfl | h
      · exact hnil
      · exact ih h
  | case4 c r hpair hc ih =>
      have hbreak : isLineBreak c = false := by simpa using hc
      rw [lines_cons r hbreak] at h
      cases hr : lines r with
      | nil =>
          rw [hr] at h
          obtain rfl : l = [c] := by simpa [consHead] using h
          exact isLine_cons.2 ⟨hbreak, hnil⟩
      | cons first others =>
          rw [hr] at h ih
          rcases List.mem_cons.1 h with rfl | h
          · exact isLine_cons.2 ⟨hbreak, ih (by simp)⟩
          · exact ih (List.mem_cons_of_mem first h)

/-! ## Two texts with a line feed between them -/

theorem consHead_append {c : Char} {ls : List (List Char)} (ms : List (List Char))
    (h : ls ≠ []) : consHead c (ls ++ ms) = consHead c ls ++ ms := by
  obtain ⟨l, ls, rfl⟩ := List.exists_cons_of_ne_nil h
  rfl

/-- The lines of two texts with a line feed between them. Whether the first text has
ended its last line is for that text alone to say. -/
theorem lines_append_lineFeed (s : List Char) :
    ∃ gap, (gap = [] ∨ gap = [[]]) ∧
      ∀ t, lines (s ++ '\n' :: t) = lines s ++ (gap ++ lines t) := by
  induction s using lines.induct with
  | case1 => exact ⟨[[]], .inr rfl, fun _ => rfl⟩
  | case2 r ih =>
      obtain ⟨gap, hgap, happend⟩ := ih
      refine ⟨gap, hgap, fun t => ?_⟩
      show [] :: lines (r ++ '\n' :: t) = _
      rw [happend]
      rfl
  | case3 c r hpair hc ih =>
      obtain ⟨gap, hgap, happend⟩ := ih
      by_cases hlast : c = '\r' ∧ r = []
      · -- the line feed completes the break
        obtain ⟨rfl, rfl⟩ := hlast
        exact ⟨[], .inl rfl, fun _ => rfl⟩
      · refine ⟨gap, hgap, fun t => ?_⟩
        have hpair' : ∀ r', c = '\r' → r ++ '\n' :: t = '\n' :: r' → False := by
          intro r' hcr heq
          cases r with
          | nil => exact hlast ⟨hcr, rfl⟩
          | cons d r => exact hpair r hcr (by rw [(List.cons.inj heq).1])
        rw [List.cons_append, lines.eq_3 c _ hpair', lines.eq_3 c r hpair, if_pos hc, if_pos hc,
          happend]
        rfl
  | case4 c r hpair hc ih =>
      have hbreak : isLineBreak c = false := by simpa using hc
      obtain ⟨gap, hgap, happend⟩ := ih
      by_cases hr : r = []
      · -- the line feed ends the line
        subst hr
        refine ⟨[], .inl rfl, fun t => ?_⟩
        rw [List.cons_append, lines_cons _ hbreak, lines_cons _ hbreak]
        rfl
      · refine ⟨gap, hgap, fun t => ?_⟩
        rw [List.cons_append, lines_cons _ hbreak, lines_cons _ hbreak, happend]
        exact consHead_append _ (lines_ne_nil hr)

theorem lines_concat_lineFeed (s : List Char) :
    ∃ gap, (gap = [] ∨ gap = [[]]) ∧ lines (s ++ ['\n']) = lines s ++ gap := by
  obtain ⟨gap, hgap, happend⟩ := lines_append_lineFeed s
  refine ⟨gap, hgap, ?_⟩
  rw [happend]
  simp [lines]

/-- Lines that are joined by line feeds come apart again, when the last one is ended
like the others. -/
theorem lines_intercalate_concat {ls : List (List Char)} (hne : ls ≠ [])
    (h : ∀ l ∈ ls, IsLine l) : lines (['\n'].intercalate ls ++ ['\n']) = ls := by
  induction ls with
  | nil => exact absurd rfl hne
  | cons l ls ih =>
      have hl : IsLine l := h l (by simp)
      cases ls with
      | nil =>
          rw [List.intercalate_singleton]
          exact lines_append_cons [] hl
      | cons l' ls =>
          rw [List.intercalate_cons_cons, List.append_assoc, List.append_assoc,
            List.singleton_append, lines_append_cons _ hl,
            ih (by simp) fun m hm => h m (List.mem_cons_of_mem l hm)]

/-! ## Carriage returns in front of the line feeds -/

/-- A text with a carriage return in front of every line feed. -/
def withReturns (s : List Char) : List Char :=
  s.flatMap fun c => if c = '\n' then ['\r', '\n'] else [c]

theorem withReturns_lineFeed (r : List Char) :
    withReturns ('\n' :: r) = '\r' :: '\n' :: withReturns r :=
  rfl

theorem withReturns_cons {c : Char} (r : List Char) (h : c ≠ '\n') :
    withReturns (c :: r) = c :: withReturns r := by
  rw [withReturns, List.flatMap_cons, if_neg h]
  rfl

/-- A carriage return in front of a line feed is part of the break. -/
theorem lines_withReturns {s : List Char} (h : '\r' ∉ s) : lines (withReturns s) = lines s := by
  induction s with
  | nil => rfl
  | cons c r ih =>
      rw [List.mem_cons, not_or] at h
      have hr := ih h.2
      by_cases hfeed : c = '\n'
      · subst hfeed
        rw [withReturns_lineFeed, lines_cons_of_isLineBreak r (by decide) (by decide), ← hr]
        rfl
      · rw [withReturns_cons r hfeed]
        cases hc : isLineBreak c with
        | true =>
            rw [lines_cons_of_isLineBreak _ hc (Ne.symm h.1),
              lines_cons_of_isLineBreak _ hc (Ne.symm h.1), hr]
        | false => rw [lines_cons _ hc, lines_cons _ hc, hr]

/-! ## Spaces and tabs at the ends of lines -/

/-- Whether a text is a run of spaces and tabs. -/
def IsPadding (s : List Char) : Prop :=
  ∀ c ∈ s, c = ' ' ∨ c = '\t'

instance (s : List Char) : Decidable (IsPadding s) :=
  List.decidableBAll _ s

theorem IsPadding.blank {s : List Char} (h : IsPadding s) : ∀ c ∈ s, isBlank c = true := by
  intro c hc
  rcases h c hc with rfl | rfl <;> decide

theorem IsPadding.isLine {s : List Char} (h : IsPadding s) : IsLine s := by
  intro c hc
  rcases h c hc with rfl | rfl <;> decide

/-- A line and the same line with padding at its ends. -/
def PaddedLine (l m : List Char) : Prop :=
  ∃ p q, IsPadding p ∧ IsPadding q ∧ m = p ++ (l ++ q)

/-- A text and the same text with padding at the ends of its lines, any of them. -/
inductive Padded : List Char → List Char → Prop
  /-- The last line, which no break ends; it may be empty. -/
  | last {l m : List Char} (hl : IsLine l) (hm : PaddedLine l m) : Padded l m
  /-- A line and the break that ends it. -/
  | cons {l m s t : List Char} {b : Char} (hl : IsLine l) (hm : PaddedLine l m)
      (hb : isLineBreak b = true) (hrest : Padded s t) : Padded (l ++ b :: s) (m ++ b :: t)

theorem PaddedLine.isLine {l m : List Char} (h : PaddedLine l m) (hl : IsLine l) : IsLine m := by
  obtain ⟨p, q, hp, hq, rfl⟩ := h
  exact isLine_append.2 ⟨hp.isLine, isLine_append.2 ⟨hl, hq.isLine⟩⟩

theorem PaddedLine.trim_eq {l m : List Char} (h : PaddedLine l m) : trim m = trim l := by
  obtain ⟨p, q, hp, hq, rfl⟩ := h
  exact trim_append_of_blank l hp.blank hq.blank

theorem Padded.forall₂_lines {s t : List Char} (h : Padded s t) (hs : '\r' ∉ s) :
    List.Forall₂ PaddedLine (lines (s ++ ['\n'])) (lines (t ++ ['\n'])) := by
  induction h with
  | last hl hm =>
      rw [lines_append_cons [] hl, lines_append_cons [] (hm.isLine hl)]
      exact .cons hm .nil
  | @cons l m s t b hl hm hb _ ih =>
      rw [List.mem_append, List.mem_cons, not_or, not_or] at hs
      obtain ⟨-, hbreak, hrest⟩ := hs
      rw [List.append_assoc, List.append_assoc, List.cons_append, List.cons_append,
        lines_append_break _ hl hb (Ne.symm hbreak),
        lines_append_break _ (hm.isLine hl) hb (Ne.symm hbreak)]
      exact .cons hm (ih hrest)

end RequestAtlas.Text
