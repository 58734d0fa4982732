import Mathlib.Data.List.DropRight
import RequestAtlas.Text.Blank
import RequestAtlas.Text.Search

/-!
# Cutting a text that was put together

A text that is put together from words with blanks between them, and from lines
with breaks between them, comes apart in the same places. The lemmas of this file
say so for each cut that the readers of this library make: the trim at the ends of
a line, the word at its start, the search for a given piece, and the lines
themselves.

The blank between two words is what keeps them apart. A piece without blanks can
stand across it in no text, so it stands in a line just if it stands in one of its
words (`infix_append_space_iff`).
-/

namespace RequestAtlas.Text

/-- Whether a text is one word: it has characters, and none of them is blank. -/
def IsWord (s : List Char) : Prop :=
  s ≠ [] ∧ ∀ c ∈ s, isBlank c = false

/-- Whether a text is one line: no character of it ends a line. -/
def IsLine (s : List Char) : Prop :=
  ∀ c ∈ s, isLineBreak c = false

instance (s : List Char) : Decidable (IsWord s) :=
  letI : Decidable (∀ c ∈ s, isBlank c = false) := List.decidableBAll _ s
  inferInstanceAs (Decidable (_ ∧ _))

instance (s : List Char) : Decidable (IsLine s) :=
  List.decidableBAll _ s

theorem isBlank_of_isLineBreak {c : Char} (h : isLineBreak c = true) : isBlank c = true := by
  simp only [isLineBreak, isBlank, Bool.or_eq_true, Bool.and_eq_true, decide_eq_true_eq,
    beq_iff_eq] at h ⊢
  omega

theorem ne_of_isBlank {c d : Char} (hc : isBlank c = true) (hd : isBlank d = false) : c ≠ d := by
  rintro rfl
  rw [hc] at hd
  exact Bool.noConfusion hd

theorem blank_space : ∀ c ∈ [' '], isBlank c = true := by
  intro c hc
  obtain rfl := List.mem_singleton.1 hc
  decide

theorem IsWord.isLine {w : List Char} (h : IsWord w) : IsLine w := by
  intro c hc
  rw [Bool.eq_false_iff]
  intro hbreak
  exact ne_of_isBlank (isBlank_of_isLineBreak hbreak) (h.2 c hc) rfl

theorem isLine_cons {c : Char} {r : List Char} :
    IsLine (c :: r) ↔ isLineBreak c = false ∧ IsLine r := by
  rw [IsLine, List.forall_mem_cons]
  rfl

theorem isLine_append {s t : List Char} : IsLine (s ++ t) ↔ IsLine s ∧ IsLine t := by
  rw [IsLine, List.forall_mem_append]
  rfl

theorem IsWord.exists_cons {w : List Char} (h : IsWord w) :
    ∃ c r, w = c :: r ∧ isBlank c = false := by
  obtain ⟨c, r, rfl⟩ := List.exists_cons_of_ne_nil h.1
  exact ⟨c, r, rfl, h.2 c (by simp)⟩

/-! ## The ends of a line -/

theorem trimStart_cons_of_not_blank {c : Char} (r : List Char) (h : isBlank c = false) :
    trimStart (c :: r) = c :: r := by
  rw [trimStart, List.dropWhile_cons, if_neg (by simp [h])]

theorem IsWord.trimStart_append {w : List Char} (h : IsWord w) (s : List Char) :
    trimStart (w ++ s) = w ++ s := by
  obtain ⟨c, r, rfl, hc⟩ := h.exists_cons
  exact trimStart_cons_of_not_blank (r ++ s) hc

theorem trimStart_append_of_blank {p : List Char} (s : List Char)
    (hp : ∀ c ∈ p, isBlank c = true) : trimStart (p ++ s) = trimStart s :=
  List.dropWhile_append_of_pos hp

theorem trimStart_space (s : List Char) : trimStart (' ' :: s) = trimStart s :=
  trimStart_append_of_blank s blank_space

/-- A trim at the start takes blanks at the end along with all that stands in front of
them, or leaves them. -/
theorem trimStart_append_blank {q : List Char} (s : List Char) (hq : ∀ c ∈ q, isBlank c = true) :
    trimStart (s ++ q) = trimStart s ∨ trimStart (s ++ q) = trimStart s ++ q := by
  by_cases hs : trimStart s = []
  · have hblank : ∀ c ∈ s, isBlank c = true := List.dropWhile_eq_nil_iff.1 hs
    have hrest : trimStart q = [] := List.dropWhile_eq_nil_iff.2 hq
    exact .inl (by rw [trimStart_append_of_blank q hblank, hs, hrest])
  · refine .inr ?_
    rw [trimStart, List.dropWhile_append, if_neg (by simpa [trimStart] using hs)]
    rfl

theorem dropEndWhile_eq_rdropWhile (p : Char → Bool) (s : List Char) :
    dropEndWhile p s = s.rdropWhile p :=
  rfl

theorem trimStart_trimStart (s : List Char) : trimStart (trimStart s) = trimStart s :=
  List.dropWhile_idempotent isBlank s

theorem trimStart_eq_self_iff {s : List Char} :
    trimStart s = s ↔ ∀ c ∈ s.head?, isBlank c = false := by
  cases s with
  | nil => simp [trimStart]
  | cons c r =>
      rw [trimStart, List.dropWhile_eq_self_iff]
      simp

theorem dropEndWhile_append_of_pos {p : Char → Bool} {s q : List Char} (hq : ∀ c ∈ q, p c = true) :
    dropEndWhile p (s ++ q) = dropEndWhile p s := by
  have hreverse : ∀ c ∈ q.reverse, p c = true := fun c hc => hq c (List.mem_reverse.1 hc)
  rw [dropEndWhile, List.reverse_append, List.dropWhile_append_of_pos hreverse]
  rfl

theorem trimEnd_append_of_blank {q : List Char} (s : List Char)
    (hq : ∀ c ∈ q, isBlank c = true) : trimEnd (s ++ q) = trimEnd s :=
  dropEndWhile_append_of_pos hq

/-- A trim at the end goes no further than a character that is not blank. -/
theorem trimEnd_append_cons {c : Char} (s t : List Char) (h : isBlank c = false) :
    trimEnd (s ++ c :: t) = s ++ c :: trimEnd t := by
  have hstop : (c :: s.reverse).dropWhile isBlank = c :: s.reverse :=
    trimStart_cons_of_not_blank s.reverse h
  rw [trimEnd, dropEndWhile, List.reverse_append, List.reverse_cons, List.append_assoc,
    List.singleton_append, List.dropWhile_append, hstop]
  split
  · next hempty => simp [trimEnd, dropEndWhile, List.isEmpty_iff.1 hempty]
  · simp [trimEnd, dropEndWhile]

theorem trimEnd_concat_of_not_blank {c : Char} (s : List Char) (h : isBlank c = false) :
    trimEnd (s ++ [c]) = s ++ [c] :=
  trimEnd_append_cons s [] h

theorem trimEnd_concat_of_blank {c : Char} (s : List Char) (h : isBlank c = true) :
    trimEnd (s ++ [c]) = trimEnd s :=
  trimEnd_append_of_blank s (by simpa using h)

theorem trimEnd_isPrefix (s : List Char) : trimEnd s <+: s :=
  List.rdropWhile_prefix isBlank s

theorem trimEnd_trimEnd (s : List Char) : trimEnd (trimEnd s) = trimEnd s :=
  List.rdropWhile_idempotent isBlank s

theorem mem_trimEnd_iff {c : Char} {s : List Char} (h : isBlank c = false) :
    c ∈ trimEnd s ↔ c ∈ s := by
  constructor
  · exact fun hc => (trimEnd_isPrefix s).subset hc
  · intro hc
    have hcut : trimEnd s ++ s.rtakeWhile isBlank = s :=
      List.rdropWhile_append_rtakeWhile
    rw [← hcut, List.mem_append] at hc
    exact hc.resolve_right fun hblank => ne_of_isBlank (List.mem_rtakeWhile_imp hblank) h rfl

/-- A text that a trim leaves as it is has no blank at either end. -/
theorem trim_eq_self_iff {s : List Char} :
    trim s = s ↔ trimStart s = s ∧ trimEnd s = s := by
  constructor
  · intro h
    have hstart : trimStart s <:+ s := List.dropWhile_suffix isBlank
    have hlength : (trimStart s).length = s.length := by
      have h1 : (trim s).length ≤ (trimStart s).length := (trimEnd_isPrefix _).length_le
      have h2 : (trimStart s).length ≤ s.length := hstart.length_le
      rw [h] at h1
      omega
    have hs : trimStart s = s := hstart.eq_of_length hlength
    refine ⟨hs, ?_⟩
    rwa [trim, hs] at h
  · rintro ⟨hstart, hend⟩
    rw [trim, hstart, hend]

theorem trim_isInfix (s : List Char) : trim s <:+: s :=
  (trimEnd_isPrefix _).isInfix.trans (List.dropWhile_suffix isBlank).isInfix

theorem trimStart_trim (s : List Char) : trimStart (trim s) = trim s := by
  have hstart := trimStart_eq_self_iff.1 (trimStart_trimStart s)
  obtain ⟨cut, hcut⟩ := trimEnd_isPrefix (trimStart s)
  rw [trimStart_eq_self_iff]
  intro c hc
  refine hstart c ?_
  rw [← hcut]
  exact List.mem_head?_append_of_mem_head? hc

theorem trim_trim (s : List Char) : trim (trim s) = trim s :=
  trim_eq_self_iff.2 ⟨trimStart_trim s, trimEnd_trimEnd _⟩

/-- A text is what a trim leaves of it with blanks around. -/
theorem exists_eq_append_trim (s : List Char) : ∃ p q, (∀ c ∈ p, isBlank c = true) ∧
    (∀ c ∈ q, isBlank c = true) ∧ s = p ++ (trim s ++ q) := by
  refine ⟨s.takeWhile isBlank, (trimStart s).rtakeWhile isBlank,
    fun c hc => List.mem_takeWhile_imp hc, fun c hc => List.mem_rtakeWhile_imp hc, ?_⟩
  rw [trim, trimEnd, dropEndWhile_eq_rdropWhile, List.rdropWhile_append_rtakeWhile, trimStart,
    List.takeWhile_append_dropWhile]

/-- Blanks at both ends are dropped, also when nothing stands between them. -/
theorem trim_append_of_blank {p q : List Char} (s : List Char) (hp : ∀ c ∈ p, isBlank c = true)
    (hq : ∀ c ∈ q, isBlank c = true) : trim (p ++ (s ++ q)) = trim s := by
  rw [trim, trim, trimStart_append_of_blank _ hp]
  rcases trimStart_append_blank s hq with h | h
  · rw [h]
  · rw [h, trimEnd_append_of_blank _ hq]

theorem trimEnd_eq_self_iff {s : List Char} :
    trimEnd s = s ↔ ∀ hne : s ≠ [], isBlank (s.getLast hne) = false := by
  rw [trimEnd, dropEndWhile_eq_rdropWhile, List.rdropWhile_eq_self_iff]
  simp

/-- The end of a text without blank at its end has none there either. -/
theorem trimEnd_eq_self_of_suffix {s t : List Char} (hsuffix : s <:+ t) (h : trimEnd t = t) :
    trimEnd s = s := by
  refine trimEnd_eq_self_iff.2 fun hne => ?_
  rw [hsuffix.getLast hne]
  exact trimEnd_eq_self_iff.1 h _

/-- What ends in a text without blank at its end has none at its end. -/
theorem trimEnd_append {s : List Char} (t : List Char) (hne : s ≠ []) (h : trimEnd s = s) :
    trimEnd (t ++ s) = t ++ s := by
  obtain ⟨before, c, rfl⟩ : ∃ before c, s = before ++ [c] :=
    ⟨s.dropLast, s.getLast hne, (List.dropLast_concat_getLast hne).symm⟩
  cases hc : isBlank c with
  | false =>
      rw [← List.append_assoc]
      exact trimEnd_concat_of_not_blank (t ++ before) hc
  | true =>
      have hle : (trimEnd before).length ≤ before.length := (trimEnd_isPrefix before).length_le
      rw [trimEnd_concat_of_blank before hc] at h
      rw [h, List.length_append, List.length_singleton] at hle
      omega

theorem IsWord.trimEnd_append {w : List Char} (h : IsWord w) (t : List Char) :
    trimEnd (t ++ w) = t ++ w := by
  have hlast : isBlank (w.getLast h.1) = false := h.2 _ (List.getLast_mem h.1)
  rw [← List.dropLast_concat_getLast h.1, ← List.append_assoc]
  exact trimEnd_concat_of_not_blank _ hlast

theorem IsWord.trim_append {w : List Char} (h : IsWord w) (s : List Char) :
    trim (w ++ s) = w ++ trimEnd s := by
  have hlast : isBlank (w.getLast h.1) = false := h.2 _ (List.getLast_mem h.1)
  rw [trim, h.trimStart_append]
  conv_lhs => rw [← List.dropLast_concat_getLast h.1]
  rw [List.append_assoc, List.singleton_append, trimEnd_append_cons _ _ hlast,
    List.append_cons, List.dropLast_concat_getLast]

/-! ## Words -/

/-- A run of characters ends where the next one is of another kind. -/
theorem span_append {p : Char → Bool} {run rest : List Char} (hrun : ∀ c ∈ run, p c = true)
    (hstop : ∀ c ∈ rest.head?, p c = false) :
    (run ++ rest).takeWhile p = run ∧ (run ++ rest).dropWhile p = rest := by
  rw [List.takeWhile_append_of_pos hrun, List.dropWhile_append_of_pos hrun]
  cases rest with
  | nil => simp
  | cons c rest =>
      have hc : p c = false := hstop c rfl
      rw [List.takeWhile_cons, List.dropWhile_cons, hc, if_neg (by simp), if_neg (by simp),
        List.append_nil]
      exact ⟨rfl, rfl⟩

/-- The first of two words, and the second without the blank between them. -/
theorem cutWord_append {w s : List Char} (hw : IsWord w) (hs : trimStart s = s) :
    cutWord (w ++ ' ' :: s) = (w, s) := by
  have hrun : ∀ c ∈ w, (!isBlank c) = true := by
    intro c hc
    rw [hw.2 c hc]
    rfl
  have hstop : ∀ c ∈ (' ' :: s).head?, (!isBlank c) = false := by
    rintro c ⟨⟩
    decide
  obtain ⟨htake, hdrop⟩ := span_append hrun hstop
  rw [cutWord, htake, hdrop, trimStart_space, hs]

/-- The word at the start of a trimmed line, and the text behind it. -/
theorem cutWord_of_trim_eq_self {line word rest : List Char} (hne : line ≠ [])
    (htrim : trim line = line) (h : cutWord line = (word, rest)) :
    IsWord word ∧ word <+: line ∧ trim rest = rest ∧ rest <:+ line := by
  obtain ⟨hstart, hend⟩ := trim_eq_self_iff.1 htrim
  obtain ⟨rfl, rfl⟩ := Prod.mk.inj h
  have hsuffix : trimStart (line.dropWhile (!isBlank ·)) <:+ line :=
    (List.dropWhile_suffix _).trans (List.dropWhile_suffix _)
  refine ⟨⟨?_, fun c hc => ?_⟩, List.takeWhile_prefix _, ?_, hsuffix⟩
  · obtain ⟨c, r, rfl⟩ := List.exists_cons_of_ne_nil hne
    have hc : isBlank c = false := trimStart_eq_self_iff.1 hstart c rfl
    simp [hc]
  · simpa using List.mem_takeWhile_imp hc
  · exact trim_eq_self_iff.2 ⟨trimStart_trimStart _, trimEnd_eq_self_of_suffix hsuffix hend⟩

/-! ## Pieces -/

theorem afterStart?_eq_some_iff {pat s rest : List Char} :
    afterStart? pat s = some rest ↔ s = pat ++ rest := by
  induction pat generalizing s with
  | nil => simp [afterStart?]
  | cons p ps ih =>
      cases s with
      | nil => simp [afterStart?]
      | cons c r =>
          rw [afterStart?]
          by_cases hp : p = c
          · rw [if_pos hp, ih, hp]
            simp
          · rw [if_neg hp]
            simp [Ne.symm hp]

/-- Behind what follows a piece stands what was put there, if the piece has none of its
characters. -/
theorem afterStart?_append {pat q : List Char} (s : List Char) (h : ∀ c ∈ pat, c ∉ q) :
    afterStart? pat (s ++ q) = (afterStart? pat s).map (· ++ q) := by
  induction pat generalizing s with
  | nil => rfl
  | cons p ps ih =>
      rw [List.forall_mem_cons] at h
      cases s with
      | nil =>
          cases q with
          | nil => rfl
          | cons d q =>
              have hd : p ≠ d := fun heq => h.1 (by simp [heq])
              exact if_neg hd
      | cons c s =>
          rw [List.cons_append, afterStart?, afterStart?]
          by_cases hp : p = c
          · rw [if_pos hp, if_pos hp, ih s h.2]
          · rw [if_neg hp, if_neg hp, Option.map_none]

theorem startsWith_iff {pat s : List Char} : startsWith pat s = true ↔ pat <+: s := by
  rw [startsWith, Option.isSome_iff_exists]
  constructor
  · rintro ⟨rest, h⟩
    exact ⟨rest, (afterStart?_eq_some_iff.1 h).symm⟩
  · rintro ⟨rest, h⟩
    exact ⟨rest, afterStart?_eq_some_iff.2 h.symm⟩

theorem contains_iff {pat s : List Char} : contains pat s = true ↔ pat <:+: s := by
  rw [contains]
  induction s with
  | nil =>
      rw [cut?, Option.isSome_map, ← startsWith, startsWith_iff, List.prefix_nil, List.infix_nil]
  | cons c r ih =>
      rw [cut?, List.infix_cons_iff, ← startsWith_iff, startsWith]
      cases afterStart? pat (c :: r) with
      | some rest => simp
      | none => simp [ih]

theorem cut?_eq_none_iff {pat s : List Char} : cut? pat s = none ↔ ¬ pat <:+: s := by
  rw [← contains_iff, contains, Bool.not_eq_true, Option.isSome_eq_false_iff,
    Option.isNone_iff_eq_none]

/-- A text is put together again from what a cut gives. -/
theorem eq_append_of_cut? {pat s before rest : List Char} (h : cut? pat s = some (before, rest)) :
    s = before ++ (pat ++ rest) := by
  induction s generalizing before with
  | nil =>
      obtain ⟨after, hafter, heq⟩ := Option.map_eq_some_iff.1 h
      cases heq
      rw [List.nil_append]
      exact afterStart?_eq_some_iff.1 hafter
  | cons c s ih =>
      rw [cut?] at h
      split at h
      next after hafter =>
          cases h
          rw [List.nil_append]
          exact afterStart?_eq_some_iff.1 hafter
      next =>
          obtain ⟨⟨before, after⟩, hcut, heq⟩ := Option.map_eq_some_iff.1 h
          cases heq
          rw [ih hcut]
          rfl

/-- A piece is found where it was put, if it begins nowhere in front of that place. -/
theorem cut?_append {pat before rest : List Char}
    (h : ∀ s : List Char, s ≠ [] → s <:+ before → ¬ pat <+: s ++ (pat ++ rest)) :
    cut? pat (before ++ (pat ++ rest)) = some (before, rest) := by
  induction before with
  | nil =>
      have hafter : afterStart? pat (pat ++ rest) = some rest := afterStart?_eq_some_iff.2 rfl
      rw [List.nil_append]
      cases hs : pat ++ rest with
      | nil => rw [cut?, ← hs, hafter]; rfl
      | cons c r => rw [cut?, ← hs, hafter]
  | cons c before ih =>
      have hnone : afterStart? pat (c :: (before ++ (pat ++ rest))) = none := by
        refine Option.eq_none_iff_forall_ne_some.2 fun r hr => ?_
        refine h (c :: before) (List.cons_ne_nil _ _) (List.suffix_refl _) ⟨r, ?_⟩
        exact (afterStart?_eq_some_iff.1 hr).symm
      rw [List.cons_append, cut?, hnone,
        ih fun s hne hs => h s hne (hs.trans (List.suffix_cons _ _))]
      rfl

/-- What does not end in a character of a piece leaves the piece behind it whole. -/
theorem cut?_append_of_getLast? {pat before : List Char} (rest : List Char)
    (hbefore : ¬ pat <:+: before) (hlast : ∀ c ∈ before.getLast?, c ∉ pat) :
    cut? pat (before ++ (pat ++ rest)) = some (before, rest) := by
  refine cut?_append fun s hne hs hpat => ?_
  rcases List.prefix_or_prefix_of_prefix hpat (List.prefix_append s _) with h | h
  · exact hbefore (h.isInfix.trans hs.isInfix)
  · refine hlast (s.getLast hne) ?_ (h.subset (List.getLast_mem hne))
    rw [hs.getLast hne]
    exact List.getLast_mem_getLast? _

/-- A piece that does not end as it begins is whole behind anything. -/
theorem cut?_append_of_unbordered {pat before : List Char} (rest : List Char)
    (hbefore : ¬ pat <:+: before)
    (hborder : ∀ n < pat.length, 0 < n → ¬ pat.drop n <+: pat) :
    cut? pat (before ++ (pat ++ rest)) = some (before, rest) := by
  refine cut?_append fun s hne hs hpat => ?_
  rcases List.prefix_or_prefix_of_prefix hpat (List.prefix_append s _) with h | h
  · exact hbefore (h.isInfix.trans hs.isInfix)
  · -- the piece begins with `s`, and what it has behind `s` stands at its start again
    obtain ⟨t, rfl⟩ := h
    have hborder := hborder s.length
    rw [List.drop_left, List.length_append] at hborder
    have ht : t ≠ [] := by
      rintro rfl
      rw [List.append_nil] at hbefore
      exact hbefore hs.isInfix
    refine hborder (Nat.lt_add_of_pos_right (List.length_pos_of_ne_nil ht))
      (List.length_pos_of_ne_nil hne) ?_
    exact List.prefix_of_prefix_length_le ((List.prefix_append_right_inj s).1 hpat)
      (List.prefix_append _ _) (by simp)

/-- Whether a piece stands in a text is found by searching for it. -/
@[reducible] def decidableInfix (piece s : List Char) : Decidable (piece <:+: s) :=
  decidable_of_iff _ contains_iff

/-- A piece without blanks that stands at the start of a line stands at the start
of its first word. -/
theorem prefix_of_prefix_append_space {piece s t : List Char} (hpiece : ' ' ∉ piece)
    (h : piece <+: s ++ ' ' :: t) : piece <+: s := by
  rcases List.prefix_or_prefix_of_prefix h (List.prefix_append s _) with hs | ⟨more, rfl⟩
  · exact hs
  · cases more with
    | nil => simp
    | cons c more =>
        rw [List.prefix_append_right_inj, List.cons_prefix_cons] at h
        exact absurd (by simp [h.1]) hpiece

theorem infix_append_space_iff {piece s t : List Char} (hne : piece ≠ [])
    (hpiece : ' ' ∉ piece) :
    piece <:+: s ++ ' ' :: t ↔ piece <:+: s ∨ piece <:+: t := by
  constructor
  · intro h
    induction s with
    | nil =>
        rcases List.infix_cons_iff.1 h with h | h
        · exact absurd (List.prefix_nil.1 (prefix_of_prefix_append_space hpiece h)) hne
        · exact .inr h
    | cons c s ih =>
        rcases List.infix_cons_iff.1 h with h | h
        · exact .inl (prefix_of_prefix_append_space hpiece h).isInfix
        · exact (ih h).imp_left (List.infix_cons ·)
  · rintro (h | h)
    · exact h.trans (List.prefix_append _ _).isInfix
    · exact (List.infix_cons h).trans (List.suffix_append _ _).isInfix

/-! ## Lines -/

theorem lines_cons {c : Char} (r : List Char) (h : isLineBreak c = false) :
    lines (c :: r) = consHead c (lines r) := by
  have hcr : ∀ r', c = '\r' → r = '\n' :: r' → False := by
    rintro - rfl -
    revert h
    decide
  rw [lines.eq_3 c r hcr, if_neg (by simp [h])]

theorem lines_cons_of_isLineBreak {c : Char} (r : List Char) (h : isLineBreak c = true)
    (hcr : c ≠ '\r') : lines (c :: r) = [] :: lines r := by
  rw [lines.eq_3 c r fun _ heq _ => hcr heq, if_pos h]

/-- A break ends the line in front of it. Only a carriage return may be half of one. -/
theorem lines_append_break {l : List Char} {b : Char} (rest : List Char) (h : IsLine l)
    (hb : isLineBreak b = true) (hcr : b ≠ '\r') : lines (l ++ b :: rest) = l :: lines rest := by
  induction l with
  | nil => exact lines_cons_of_isLineBreak rest hb hcr
  | cons c l ih =>
      obtain ⟨hc, hl⟩ := isLine_cons.1 h
      rw [List.cons_append, lines_cons _ hc, ih hl]
      rfl

theorem lines_append_cons {l : List Char} (rest : List Char) (h : IsLine l) :
    lines (l ++ '\n' :: rest) = l :: lines rest :=
  lines_append_break rest h (by decide) (by decide)

theorem IsLine.lines {l : List Char} (h : IsLine l) (hne : l ≠ []) : lines l = [l] := by
  induction l with
  | nil => exact absurd rfl hne
  | cons c l ih =>
      obtain ⟨hc, hl⟩ := isLine_cons.1 h
      rw [lines_cons _ hc]
      cases l with
      | nil => rfl
      | cons d l =>
          rw [ih hl (by simp)]
          rfl

/-- Lines that are joined by line feeds come apart again, unless one is empty or
has a break of its own. -/
theorem lines_intercalate {ls : List (List Char)} (hne : ∀ l ∈ ls, l ≠ [])
    (h : ∀ l ∈ ls, IsLine l) : lines (['\n'].intercalate ls) = ls := by
  induction ls with
  | nil => rfl
  | cons l ls ih =>
      have hl : IsLine l := h l (by simp)
      cases ls with
      | nil =>
          rw [List.intercalate_singleton]
          exact hl.lines (hne l (by simp))
      | cons l' ls =>
          rw [List.intercalate_cons_cons, List.append_assoc, List.singleton_append,
            lines_append_cons _ hl,
            ih (fun m hm => hne m (List.mem_cons_of_mem l hm))
              fun m hm => h m (List.mem_cons_of_mem l hm)]

end RequestAtlas.Text
