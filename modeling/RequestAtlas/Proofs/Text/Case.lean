import RequestAtlas.Proofs.Text.Cuts
import RequestAtlas.Text.Case

/-!
# Lower case of a part and of the whole

Lower-casing goes character by character, so the lower-case form of a part would stand
in that of the whole, were it not for the capital sigma: it takes its final form at the
end of a word, and where a word ends is a matter of what stands around the part. So the
form of a part stands there just where each capital sigma of the part is final in the
whole as it is in the part alone (`lowerWithin_eq_lower_iff`).

That is a matter of the whole only for the sigmas at the ends of the part. An open sigma
has nothing but ignorable characters between it and an end of the part, so that a cased
letter beyond that end would change its form. A part with an open sigma is missed by the
lower-case form of some whole (`exists_not_lower_infix`), and one without stands in all
of them.
-/

namespace RequestAtlas.Text

/-- Whether the search for a cased character passes over `c`. -/
def isIgnorable (c : Char) : Bool :=
  inRanges CaseTable.ignorable c.toNat

/-- Whether a capital sigma is final between two texts, of which the first is given from
its end. -/
def isFinal (before behind : List Char) : Bool :=
  meetsCased before && !meetsCased behind

/-- What lower-casing makes of a text between two others, of which the first is given
from its end. -/
def lowerWithin (before behind : List Char) : List Char → List Char
  | [] => []
  | c :: r =>
    (if c = 'Σ' then [if isFinal before (r ++ behind) then 'ς' else 'σ'] else lowerChar c) ++
      lowerWithin (c :: before) behind r

/-- Whether each capital sigma of a text is final between two others just if it is in the
text alone. -/
def KeepsSigmas (before s behind : List Char) : Prop :=
  ∀ a b, s = a ++ 'Σ' :: b →
    isFinal (a.reverse ++ before.reverse) (b ++ behind) = isFinal a.reverse b

/-- Whether the form of a capital sigma of a text depends on what stands around the text:
it would become final behind a cased character, or would cease to be in front of one. -/
def HasOpenSigma (s : List Char) : Prop :=
  ∃ a b, s = a ++ 'Σ' :: b ∧
    ((a.all isIgnorable = true ∧ meetsCased b = false) ∨
      (b.all isIgnorable = true ∧ meetsCased a.reverse = true))

/-! ## A part of a text -/

theorem lowerAfter_append (before s t : List Char) :
    lowerAfter before (s ++ t) = lowerWithin before t s ++ lowerAfter (s.reverse ++ before) t := by
  induction s generalizing before with
  | nil => rfl
  | cons c s ih =>
      rw [List.cons_append, lowerAfter, ih, lowerWithin]
      simp [isFinal]

theorem lowerWithin_nil (before s : List Char) : lowerWithin before [] s = lowerAfter before s := by
  have h := lowerAfter_append before s []
  rw [List.append_nil] at h
  rw [h, lowerAfter, List.append_nil]

theorem lower_append (before s behind : List Char) :
    ∃ x y, lower (before ++ (s ++ behind)) = x ++ (lowerWithin before.reverse behind s ++ y) := by
  refine ⟨lowerWithin [] (s ++ behind) before,
    lowerAfter (s.reverse ++ before.reverse) behind, ?_⟩
  rw [lower, lowerAfter_append, lowerAfter_append, List.append_nil]

theorem length_lowerWithin (before behind before' behind' s : List Char) :
    (lowerWithin before behind s).length = (lowerWithin before' behind' s).length := by
  induction s generalizing before before' with
  | nil => rfl
  | cons c s ih =>
      rw [lowerWithin, lowerWithin, List.length_append, List.length_append,
        ih (c :: before) (c :: before')]
      by_cases hc : c = 'Σ' <;> simp [hc]

theorem length_lowerWithin_eq (before behind s : List Char) :
    (lowerWithin before behind s).length = (lower s).length := by
  rw [lower, ← lowerWithin_nil]
  exact length_lowerWithin before behind [] [] s

/-- A text is taken apart at a given character by its first character and by the rest. -/
theorem forall_split_cons {p : List Char → List Char → Prop} {c d : Char} {s : List Char} :
    (∀ a b, c :: s = a ++ d :: b → p a b) ↔
      (c = d → p [] s) ∧ ∀ a b, s = a ++ d :: b → p (c :: a) b := by
  constructor
  · intro h
    refine ⟨fun hc => h [] s (by rw [hc, List.nil_append]), fun a b hs => h (c :: a) b ?_⟩
    rw [hs, List.cons_append]
  · rintro ⟨hhead, htail⟩ a b h
    cases a with
    | nil =>
        obtain ⟨hc, rfl⟩ := List.cons.inj h
        exact hhead hc
    | cons e a =>
        obtain ⟨rfl, hs⟩ := List.cons.inj h
        exact htail a b hs

/-- The induction carries the part of the text that is behind it already. -/
theorem lowerWithin_eq_lowerAfter_iff (read before behind s : List Char) :
    lowerWithin (read ++ before) behind s = lowerAfter read s ↔
      ∀ a b, s = a ++ 'Σ' :: b →
        isFinal (a.reverse ++ (read ++ before)) (b ++ behind) = isFinal (a.reverse ++ read) b := by
  induction s generalizing read with
  | nil => simp [lowerWithin, lowerAfter]
  | cons c s ih =>
      have hrest := ih (c :: read)
      rw [List.cons_append] at hrest
      rw [lowerWithin, lowerAfter, forall_split_cons]
      simp only [List.reverse_cons, List.append_assoc, List.singleton_append, List.reverse_nil,
        List.nil_append]
      by_cases hc : c = 'Σ'
      · have hforms : ∀ x y : Bool,
            (if x then 'ς' else 'σ') = (if y then 'ς' else 'σ') ↔ x = y := by decide
        rw [if_pos hc, if_pos hc, List.singleton_append, List.singleton_append, List.cons.injEq,
          hrest, hforms]
        simp [hc, isFinal]
      · rw [if_neg hc, if_neg hc, List.append_cancel_left_eq, hrest]
        simp [hc]

theorem lowerWithin_eq_lower_iff {before s behind : List Char} :
    lowerWithin before.reverse behind s = lower s ↔ KeepsSigmas before s behind := by
  have h := lowerWithin_eq_lowerAfter_iff [] before.reverse behind s
  simp only [List.nil_append, List.append_nil] at h
  exact h

/-- The lower-case form of a part stands in that of the whole. -/
theorem KeepsSigmas.lower_infix {before s behind : List Char} (h : KeepsSigmas before s behind) :
    lower s <:+: lower (before ++ (s ++ behind)) := by
  obtain ⟨x, y, hwhole⟩ := lower_append before s behind
  rw [hwhole, lowerWithin_eq_lower_iff.2 h]
  exact ⟨x, y, List.append_assoc x _ y⟩

/-! ## Open sigmas -/

theorem meetsCased_cons_of_ignorable {c : Char} (r : List Char) (h : isIgnorable c = true) :
    meetsCased (c :: r) = meetsCased r := by
  rw [isIgnorable] at h
  rw [meetsCased, meetsCased, List.dropWhile_cons, if_pos h]

theorem meetsCased_cons_of_not_ignorable {c : Char} (r : List Char) (h : ¬ isIgnorable c = true) :
    meetsCased (c :: r) = inRanges CaseTable.cased c.toNat := by
  rw [isIgnorable] at h
  rw [meetsCased, List.dropWhile_cons, if_neg h]

theorem meetsCased_append (s t : List Char) :
    meetsCased (s ++ t) = if s.all isIgnorable then meetsCased t else meetsCased s := by
  induction s with
  | nil => rfl
  | cons c s ih =>
      by_cases hc : isIgnorable c = true
      · rw [List.cons_append, meetsCased_cons_of_ignorable _ hc, ih,
          meetsCased_cons_of_ignorable _ hc, List.all_cons, hc, Bool.true_and]
      · rw [List.cons_append, meetsCased_cons_of_not_ignorable _ hc,
          meetsCased_cons_of_not_ignorable _ hc]
        simp [hc]

theorem meetsCased_eq_false {s : List Char} (h : s.all isIgnorable = true) :
    meetsCased s = false := by
  have happend := meetsCased_append s []
  rw [List.append_nil, if_pos h] at happend
  exact happend

/-- Around a text without open sigma nothing makes a difference. -/
theorem keepsSigmas_of_not_hasOpenSigma {s : List Char} (h : ¬ HasOpenSigma s)
    (before behind : List Char) : KeepsSigmas before s behind := by
  intro a b hs
  have hstart : a.all isIgnorable = true → meetsCased b = true := by
    intro ha
    by_contra hb
    exact h ⟨a, b, hs, .inl ⟨ha, by simpa using hb⟩⟩
  have hend : b.all isIgnorable = true → meetsCased a.reverse = false := by
    intro hb
    by_contra ha
    exact h ⟨a, b, hs, .inr ⟨hb, by simpa using ha⟩⟩
  rw [isFinal, isFinal, meetsCased_append, meetsCased_append, List.all_reverse]
  by_cases ha : a.all isIgnorable = true
  · have hb : ¬ b.all isIgnorable = true := by
      intro hb
      have hcased := hstart ha
      rw [meetsCased_eq_false hb] at hcased
      cases hcased
    simp [hb, hstart ha]
  · by_cases hb : b.all isIgnorable = true
    · simp [ha, hend hb]
    · simp [ha, hb]

/-- A text one character longer holds another at its end or behind its first
character. -/
theorem eq_or_head?_of_infix_cons {s t : List Char} {x : Char} (hne : s ≠ [])
    (hlength : t.length = s.length) (h : s <:+: x :: t) : s = t ∨ s.head? = some x := by
  rcases List.infix_cons_iff.1 h with hprefix | hwithin
  · obtain ⟨c, r, rfl⟩ := List.exists_cons_of_ne_nil hne
    exact .inr (congrArg some (List.cons_prefix_cons.1 hprefix).1)
  · exact .inl (hwithin.eq_of_length hlength.symm)

theorem eq_or_getLast?_of_infix_concat {s t : List Char} {x : Char} (hne : s ≠ [])
    (hlength : t.length = s.length) (h : s <:+: t ++ [x]) : s = t ∨ s.getLast? = some x := by
  have hreverse : s.reverse <:+: x :: t.reverse := by simpa using List.reverse_infix.2 h
  have hcases := eq_or_head?_of_infix_cons (by simpa using hne) (by simpa using hlength) hreverse
  simpa using hcases

theorem exists_letter_ne (o : Option Char) :
    ∃ x, o ≠ some x ∧ lowerChar x = [x] ∧ x ≠ 'Σ' ∧ meetsCased [x] = true := by
  by_cases ho : o = some 'a'
  · exact ⟨'b', by simp [ho], by decide +kernel⟩
  · exact ⟨'a', ho, by decide +kernel⟩

theorem lower_ne_nil {s : List Char} (h : 'Σ' ∈ s) : lower s ≠ [] := by
  obtain ⟨a, b, rfl⟩ := List.append_of_mem h
  rw [lower, lowerAfter_append, lowerAfter, if_pos rfl]
  simp

/-- A letter at the side of an open sigma hides the text. -/
theorem exists_not_lower_infix {s : List Char} (h : HasOpenSigma s) :
    ∃ t, s <:+: t ∧ ¬ lower s <:+: lower t := by
  obtain ⟨a, b, hs, hopen⟩ := h
  have hne : lower s ≠ [] := lower_ne_nil (by simp [hs])
  rcases hopen with ⟨ha, hb⟩ | ⟨hb, ha⟩
  · obtain ⟨x, hx, hlower, hsigma, hcased⟩ := exists_letter_ne (lower s).head?
    refine ⟨x :: s, ⟨[x], [], by simp⟩, fun hwithin => ?_⟩
    have hwhole : lower (x :: s) = x :: lowerWithin [x] [] s := by
      rw [lower, lowerAfter, if_neg hsigma, hlower, lowerWithin_nil, List.singleton_append]
    rw [hwhole] at hwithin
    rcases eq_or_head?_of_infix_cons hne (length_lowerWithin_eq _ _ s) hwithin with heq | hhead
    · have hkeeps : KeepsSigmas [x] s [] := lowerWithin_eq_lower_iff.1 heq.symm
      have hfinal := hkeeps a b hs
      have hstart : meetsCased a.reverse = false := meetsCased_eq_false (by simpa using ha)
      rw [isFinal, isFinal, meetsCased_append, List.all_reverse, if_pos ha] at hfinal
      simp [hcased, hb, hstart] at hfinal
    · exact hx hhead
  · obtain ⟨x, hx, hlower, hsigma, hcased⟩ := exists_letter_ne (lower s).getLast?
    refine ⟨s ++ [x], ⟨[], [x], by simp⟩, fun hwithin => ?_⟩
    have hwhole : lower (s ++ [x]) = lowerWithin [] [x] s ++ [x] := by
      rw [lower, lowerAfter_append, lowerAfter, if_neg hsigma, hlower, lowerAfter,
        List.append_nil]
    rw [hwhole] at hwithin
    rcases eq_or_getLast?_of_infix_concat hne (length_lowerWithin_eq _ _ s) hwithin with
      heq | hlast
    · have hkeeps : KeepsSigmas [] s [x] := lowerWithin_eq_lower_iff.1 heq.symm
      have hfinal := hkeeps a b hs
      rw [isFinal, isFinal, meetsCased_append, meetsCased_append, if_pos hb] at hfinal
      simp [hcased, ha, meetsCased_eq_false hb] at hfinal
    · exact hx hlast

end RequestAtlas.Text
