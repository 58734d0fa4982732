import RequestAtlas.Proofs.Text.Cuts

/-!
# Texts cut at a character

A text is cut into pieces at a character, and joined from pieces with the character
between them. The one undoes the other: what a text is cut into are the pieces without
that character which make the text when they are joined, and there is one such list
(`splitAt_eq_iff`). So a claim about where a text is cut can be settled by joining.

Cuts at the first or the last place of a character go the same way, when the part in
front of the place, or behind it, does not have the character.
-/

namespace RequestAtlas.Text

variable {sep : Char} {s t : List Char} {ps qs : List (List Char)}

/-! ## Cutting at every place -/

theorem splitAt_eq_splitOn (sep : Char) (s : List Char) : splitAt sep s = s.splitOn sep := by
  induction s with
  | nil => simp [splitAt]
  | cons c r ih =>
      rw [splitAt, List.splitOn_cons_eq_if_modifyHead, ih]
      by_cases hc : c = sep
      · rw [if_pos hc, if_pos (by simpa using hc)]
      · rw [if_neg hc, if_neg (by simpa using hc)]
        cases hr : r.splitOn sep with
        | nil => exact absurd hr (List.splitOn_ne_nil sep r)
        | cons p ps => rfl

theorem splitAt_ne_nil (sep : Char) (s : List Char) : splitAt sep s ≠ [] := by
  rw [splitAt_eq_splitOn]
  exact List.splitOn_ne_nil sep s

theorem join_splitAt (sep : Char) (s : List Char) : join [sep] (splitAt sep s) = s := by
  rw [splitAt_eq_splitOn]
  exact List.intercalate_splitOn sep

theorem splitAt_join (hne : ps ≠ []) (h : ∀ p ∈ ps, sep ∉ p) : splitAt sep (join [sep] ps) = ps := by
  rw [splitAt_eq_splitOn]
  exact List.splitOn_intercalate sep h hne

theorem not_mem_of_mem_splitAt {p : List Char} (h : p ∈ splitAt sep s) : sep ∉ p := by
  induction s generalizing p with
  | nil =>
      obtain rfl : p = [] := List.mem_singleton.1 h
      exact List.not_mem_nil
  | cons c r ih =>
      rw [splitAt] at h
      split at h
      · rcases List.mem_cons.1 h with rfl | h
        · exact List.not_mem_nil
        · exact ih h
      · next hc =>
          split at h
          · next hr => exact absurd hr (splitAt_ne_nil sep r)
          · next q qs hr =>
              rw [hr] at ih
              rcases List.mem_cons.1 h with rfl | h
              · rw [List.mem_cons, not_or]
                exact ⟨Ne.symm hc, ih List.mem_cons_self⟩
              · exact ih (List.mem_cons_of_mem q h)

/-- The pieces of a text are those that have no separator and make the text. -/
theorem splitAt_eq_iff :
    splitAt sep s = ps ↔ ps ≠ [] ∧ join [sep] ps = s ∧ ∀ p ∈ ps, sep ∉ p := by
  constructor
  · rintro rfl
    exact ⟨splitAt_ne_nil sep s, join_splitAt sep s, fun _ => not_mem_of_mem_splitAt⟩
  · rintro ⟨hne, rfl, h⟩
    exact splitAt_join hne h

theorem splitAt_cons_self (sep : Char) (s : List Char) :
    splitAt sep (sep :: s) = [] :: splitAt sep s := by
  rw [splitAt, if_pos rfl]

/-! ## Joining -/

theorem join_append (hps : ps ≠ []) (hqs : qs ≠ []) :
    join [sep] (ps ++ qs) = join [sep] ps ++ sep :: join [sep] qs := by
  induction ps with
  | nil => exact absurd rfl hps
  | cons p ps ih =>
      cases ps with
      | nil =>
          obtain ⟨q, qs, rfl⟩ := List.exists_cons_of_ne_nil hqs
          simp [join]
      | cons p' ps =>
          have hrest := ih (by simp)
          simp only [join, List.cons_append, List.intercalate_cons_cons] at hrest ⊢
          rw [hrest]
          simp

theorem join_cons (p : List Char) (hps : ps ≠ []) :
    join [sep] (p :: ps) = p ++ sep :: join [sep] ps := by
  have happend : join [sep] ([p] ++ ps) = join [sep] [p] ++ sep :: join [sep] ps :=
    join_append (by simp) hps
  simpa [join] using happend

theorem join_cons_eq_append (p : List Char) (ps : List (List Char)) :
    join [sep] (p :: ps) = p ++ join [sep] ([] :: ps) := by
  cases ps <;> simp [join]

theorem forall_mem_join {good : Char → Prop} (hsep : good sep) :
    (∀ c ∈ join [sep] ps, good c) ↔ ∀ p ∈ ps, ∀ c ∈ p, good c := by
  induction ps with
  | nil => simp [join]
  | cons p ps ih =>
      cases ps with
      | nil => simp [join]
      | cons p' ps =>
          rw [join_cons p (by simp), List.forall_mem_append, List.forall_mem_cons, ih,
            List.forall_mem_cons (a := p)]
          simp [hsep]

/-! ## Cutting at one place -/

theorem cutAt_append_cons (t : List Char) (h : sep ∉ s) : cutAt sep (s ++ sep :: t) = (s, t) := by
  have hrun : ∀ c ∈ s, (c != sep) = true := fun c hc => bne_iff_ne.2 fun heq => h (heq ▸ hc)
  have hstop : ∀ c ∈ (sep :: t).head?, (c != sep) = false := by
    rintro c ⟨⟩
    simp
  obtain ⟨htake, hdrop⟩ := span_append hrun hstop
  rw [cutAt, htake, hdrop]
  rfl

theorem cutAt_of_not_mem (h : sep ∉ s) : cutAt sep s = (s, []) := by
  have hrun : ∀ c ∈ s, (c != sep) = true := fun c hc => bne_iff_ne.2 fun heq => h (heq ▸ hc)
  rw [cutAt, List.takeWhile_eq_self_iff.2 hrun, List.dropWhile_eq_nil_iff.2 hrun]
  rfl

theorem afterLast_of_not_mem (h : sep ∉ s) : afterLast sep s = s := by
  have hrun : ∀ c ∈ s.reverse, (c != sep) = true := fun c hc =>
    bne_iff_ne.2 fun heq => h (heq ▸ List.mem_reverse.1 hc)
  rw [afterLast, List.takeWhile_eq_self_iff.2 hrun, List.reverse_reverse]

/-- A run is taken whole just if each of its characters is of the kind. -/
theorem takeWhile_append_eq_left_iff {good : Char → Bool} (ht : ∀ c ∈ t.head?, good c = false) :
    (s ++ t).takeWhile good = s ↔ ∀ c ∈ s, good c = true := by
  constructor
  · intro h c hc
    rw [← h] at hc
    exact List.mem_takeWhile_imp hc
  · exact fun h => (span_append h ht).1

/-- Pieces are found again in front of other text just if none has a separator or a
character at which the text ends. -/
theorem splitAt_takeWhile_eq_iff {good : Char → Bool} (hsep : good sep = true) (hne : ps ≠ [])
    (ht : ∀ c ∈ t.head?, good c = false) :
    splitAt sep ((join [sep] ps ++ t).takeWhile good) = ps ↔
      ∀ p ∈ ps, sep ∉ p ∧ ∀ c ∈ p, good c = true := by
  rw [splitAt_eq_iff, eq_comm (a := join [sep] ps), takeWhile_append_eq_left_iff ht,
    forall_mem_join hsep]
  constructor
  · rintro ⟨-, hgood, hpieces⟩ p hp
    exact ⟨hpieces p hp, hgood p hp⟩
  · intro h
    exact ⟨hne, fun p hp => (h p hp).2, fun p hp => (h p hp).1⟩

end RequestAtlas.Text
