import RequestAtlas.Proofs.Json.Spelling
import RequestAtlas.Proofs.Text.Cuts

/-!
# Blanks behind a scalar

Blanks may stand at the end of a document, and there are more of them than there is space
in JSON. A reader that comes to such an end is compared here with the reader of the text
that ends in front of the blanks. What the one reads the other reads too, and the one is
left with the blanks where the other is left with nothing more (`Repeats`), unless the one
finds a flaw: a blank that is no space, or a text that is still open.

This file says so of names, numbers and texts. None of them has a blank that a reader could
mistake for a part of it, but for texts, which are closed by a quote; there an escape may
reach into the blanks, and what matters is that the text is then never closed
(`readText_append`).
-/

namespace RequestAtlas.Json

open Text

/-! ## Flaws -/

/-- Whether a reading stops at a flaw. -/
def Flawed {α : Type} (x : Except Stop α) : Prop :=
  ∃ flaw left, x = stop flaw left

theorem Flawed.bind {α β : Type} {x : Except Stop α} (h : Flawed x) (f : α → Except Stop β) :
    Flawed (x >>= f) := by
  obtain ⟨flaw, left, rfl⟩ := h
  exact ⟨flaw, left, rfl⟩

/-- Whether a reading knows no limit, so that it stops at a flaw if it stops. -/
def Unlimited {α : Type} (x : Except Stop α) : Prop :=
  Flawed x ∨ ∃ a, x = .ok a

namespace Unlimited

variable {α β : Type}

theorem stop (flaw : Flaw) (left : List Char) : Unlimited (stop flaw left : Except Stop α) :=
  .inl ⟨flaw, left, rfl⟩

theorem ok (a : α) : Unlimited (.ok a) :=
  .inr ⟨a, rfl⟩

theorem bind {x : Except Stop α} {f : α → Except Stop β} (h : Unlimited x)
    (hf : ∀ a, Unlimited (f a)) : Unlimited (x >>= f) := by
  rcases h with hflawed | ⟨a, rfl⟩
  · exact .inl (hflawed.bind f)
  · exact hf a

end Unlimited

theorem unlimited_readEscape (opening whole s : List Char) :
    Unlimited (readEscape opening whole s) := by
  unfold readEscape
  split
  case h_1 | h_11 => exact .stop _ _
  case h_10 =>
      unfold readUnicodeEscape
      split
      · exact .stop _ _
      split
      · split
        · exact .ok _
        · split
          · exact .stop _ _
          · split <;> exact .ok _
      · exact .ok _
  all_goals exact .ok _

theorem unlimited_readText (opening : List Char) (skip : Nat) (s : List Char) :
    Unlimited (readText opening skip s) := by
  induction s generalizing skip with
  | nil => exact .stop _ _
  | cons c s ih =>
      cases skip with
      | succ skip => exact ih skip
      | zero =>
          rw [readText]
          split
          · exact .ok _
          · split
            · exact (unlimited_readEscape _ _ _).bind fun p => (ih p.2).bind fun _ => .ok _
            · split
              · exact .stop _ _
              · exact (ih 0).bind fun _ => .ok _

theorem readDigits_of_not_isDigit {limits : Limits} {negative : Bool} {whole s : List Char}
    (h : ∀ c ∈ s.head?, c.isDigit = false) :
    readDigits limits negative whole s = stop .expectedValue whole := by
  unfold readDigits
  split
  next => exact absurd (h '0' rfl) (by decide)
  next c r _ => rw [if_neg (by simp [h c rfl])]
  next => rfl

/-! ## What is taken -/

theorem fraction_suffix (s : List Char) : (fraction s).2 <:+ s := by
  unfold fraction
  split
  · split
    · exact (List.dropWhile_suffix _).trans (List.suffix_cons _ _)
    · exact List.suffix_refl _
  · exact List.suffix_refl _

theorem exponent?_suffix {s r : List Char} {n : Int} (h : exponent? s = some (n, r)) :
    r <:+ s := by
  unfold exponent? at h
  split at h
  · cases h
  next c s =>
    have hcons : s <:+ c :: s := List.suffix_cons c s
    dsimp only at h
    split at h
    · split at h <;> split at h <;> cases h
      · exact (List.dropWhile_suffix _).trans ((List.suffix_cons _ _).trans hcons)
      · exact (List.dropWhile_suffix _).trans ((List.suffix_cons _ _).trans hcons)
      · exact (List.dropWhile_suffix _).trans hcons
    · cases h

theorem suffix_of_readNumberAfter {limits : Limits} {negative : Bool} {whole s r : List Char}
    {v : Json} (h : readNumberAfter limits negative whole s = .ok (v, r)) : r <:+ s := by
  unfold readNumberAfter at h
  dsimp only at h
  split at h
  next heq =>
      cases h
      exact (exponent?_suffix heq).trans (fraction_suffix s)
  next =>
      split at h
      · split at h
        · cases h
        · cases h
          exact fraction_suffix s
      · cases h
        exact fraction_suffix s

theorem five_le_of_readUnicodeEscape {s : List Char} {c : Char} {taken : Nat}
    (h : readUnicodeEscape s = .ok (c, taken)) : 5 ≤ taken := by
  have hok {d : Char} {n : Nat} (hn : 5 ≤ n)
      (heq : (.ok (d, n) : Except Stop (Char × Nat)) = .ok (c, taken)) : 5 ≤ taken :=
    (Prod.mk.inj (Except.ok.inj heq)).2 ▸ hn
  unfold readUnicodeEscape at h
  split at h
  · cases h
  split at h
  · split at h
    · exact hok (by decide) h
    · split at h
      · cases h
      · split at h <;> exact hok (by decide) h
  · exact hok (by decide) h

/-- A text that is read goes on behind the escape that was read last. -/
theorem lt_length_of_readText {opening s : List Char} {skip : Nat} {p : List Char × List Char}
    (h : readText opening skip s = .ok p) : skip < s.length := by
  induction s generalizing skip with
  | nil => cases h
  | cons c s ih =>
      cases skip with
      | zero => exact Nat.succ_pos _
      | succ skip => exact Nat.succ_lt_succ (ih h)

/-! ## Readings side by side -/

/-- How a reading that has `q` at the end of its text goes, next to one that has not: it finds
a flaw, or both stop alike, or both give the same, and the first has `q` behind all that the
second leaves, which is shorter than `room`. -/
inductive Repeats {α : Type} (q : List Char) (room : Nat) :
    Except Stop (α × List Char) → Except Stop (α × List Char) → Prop
  | flawed {long short} (h : Flawed long) : Repeats q room long short
  | error (e : Stop) : Repeats q room (.error e) (.error e)
  | ok {a r} (h : r.length < room) : Repeats q room (.ok (a, r ++ q)) (.ok (a, r))

namespace Repeats

variable {α β γ : Type} {q : List Char} {room room' : Nat}

theorem stop (flaw : Flaw) (left : List Char) (short : Except Stop (α × List Char)) :
    Repeats q room (stop flaw left) short :=
  .flawed ⟨flaw, left, rfl⟩

theorem bind {x y : Except Stop (α × List Char)}
    {f g : α × List Char → Except Stop (β × List Char)} (h : Repeats q room x y)
    (hf : ∀ a r, r.length < room → Repeats q room' (f (a, r ++ q)) (g (a, r))) :
    Repeats q room' (x >>= f) (y >>= g) := by
  cases h with
  | flawed h => exact .flawed (h.bind f)
  | error e => exact .error e
  | ok h => exact hf _ _ h

theorem bind_left (x : Except Stop γ) {f g : γ → Except Stop (α × List Char)}
    (h : ∀ c, Repeats q room (f c) (g c)) : Repeats q room (x >>= f) (x >>= g) := by
  cases x with
  | error e => exact .error e
  | ok c => exact h c

theorem mono {x y : Except Stop (α × List Char)} (h : Repeats q room x y)
    (hle : room ≤ room') : Repeats q room' x y := by
  cases h with
  | flawed h => exact .flawed h
  | error e => exact .error e
  | ok h => exact .ok (h.trans_le hle)

theorem of_map {x : Except Stop (α × List Char)} (h : ∀ a r, x = .ok (a, r) → r.length < room) :
    Repeats q room (x.map fun (a, r) => (a, r ++ q)) x := by
  cases x with
  | error e => exact .error e
  | ok p => exact .ok (h p.1 p.2 rfl)

end Repeats

theorem isDigit_of_isBlank {c : Char} (h : isBlank c = true) : c.isDigit = false := by
  rw [Bool.eq_false_iff]
  intro hdigit
  simp only [Char.isDigit, Bool.and_eq_true, decide_eq_true_eq, ge_iff_le,
    UInt32.le_iff_toNat_le] at hdigit
  have hlow : 48 ≤ c.toNat := hdigit.1
  have hhigh : c.toNat ≤ 57 := hdigit.2
  simp only [isBlank, Bool.or_eq_true, Bool.and_eq_true, decide_eq_true_eq, beq_iff_eq] at h
  omega

section Scalars

variable {q : List Char} (hq : ∀ c ∈ q, isBlank c = true)
variable {limits : Limits} {negative : Bool}

include hq

theorem eq_append_of_append_eq (word : List Char) {s r : List Char} (hword : IsWord word)
    (h : s ++ q = word ++ r) : ∃ r₀, s = word ++ r₀ ∧ r = r₀ ++ q := by
  have hnot : ∀ c ∈ word, c ∉ q := fun c hc hmem =>
    ne_of_isBlank (hq c hmem) (hword.2 c hc) rfl
  have hafter := afterStart?_append s hnot
  rw [h, afterStart?_eq_some_iff.2 rfl, eq_comm, Option.map_eq_some_iff] at hafter
  obtain ⟨r₀, hr, heq⟩ := hafter
  exact ⟨r₀, afterStart?_eq_some_iff.1 hr, heq.symm⟩

/-! ## Numbers -/

theorem head?_isDigit_of_blank : ∀ c ∈ q.head?, c.isDigit = false := fun c hc =>
  isDigit_of_isBlank (hq c (List.mem_of_mem_head? hc))

theorem span_isDigit_append (s : List Char) :
    (s ++ q).takeWhile Char.isDigit = s.takeWhile Char.isDigit ∧
      (s ++ q).dropWhile Char.isDigit = s.dropWhile Char.isDigit ++ q := by
  induction s with
  | nil => exact span_append (List.forall_mem_nil _) (head?_isDigit_of_blank hq)
  | cons c s ih =>
      by_cases hc : c.isDigit = true
      · simp [hc, ih.1, ih.2]
      · simp [hc]

theorem fraction_append (s : List Char) :
    fraction (s ++ q) = ((fraction s).1, (fraction s).2 ++ q) := by
  rcases s with _ | ⟨c, s⟩
  · rw [List.nil_append, fraction.eq_2]
    · rfl
    · rintro c r rfl
      exact ne_of_isBlank (hq '.' (by simp)) (by decide) rfl
  · by_cases hc : c = '.'
    · subst hc
      rcases s with _ | ⟨d, s⟩
      · -- a point without digits is no fraction, whatever stands behind it
        cases q with
        | nil => rfl
        | cons d q =>
            have hd : d.isDigit = false := isDigit_of_isBlank (hq d (by simp))
            simp [fraction, hd]
      · obtain ⟨htake, hdrop⟩ := span_isDigit_append hq (d :: s)
        rw [List.cons_append] at htake hdrop
        rw [List.cons_append, List.cons_append, fraction, fraction, htake, hdrop]
        split <;> rfl
    · have hnot (t : List Char) (d : Char) (r : List Char) (heq : c :: t = '.' :: d :: r) :
          False :=
        hc (List.cons.inj heq).1
      rw [List.cons_append, fraction.eq_2 _ (hnot _), fraction.eq_2 _ (hnot _)]
      rfl

theorem exponent?_append (s : List Char) :
    exponent? (s ++ q) = (exponent? s).map fun (e, r) => (e, r ++ q) := by
  rcases s with _ | ⟨c, s⟩
  · cases q with
    | nil => rfl
    | cons c q =>
        have hblank : isBlank c = true := hq c (by simp)
        have hc : ¬(c = 'e' ∨ c = 'E') :=
          not_or.2 ⟨ne_of_isBlank hblank (by decide), ne_of_isBlank hblank (by decide)⟩
        exact if_neg hc
  · rw [List.cons_append]
    unfold exponent?
    dsimp only
    by_cases hc : c = 'e' ∨ c = 'E'
    · rw [if_pos hc, if_pos hc]
      split
      next heq =>
          obtain ⟨r₀, rfl, rfl⟩ := eq_append_of_append_eq hq ['-'] (by decide) heq
          simp only [List.singleton_append, span_isDigit_append hq]
          split <;> rfl
      next heq =>
          obtain ⟨r₀, rfl, rfl⟩ := eq_append_of_append_eq hq ['+'] (by decide) heq
          simp only [List.singleton_append, span_isDigit_append hq]
          split <;> rfl
      next hminus hplus =>
          -- with these two the reader of the shorter text finds no sign either
          have hminus₀ (r : List Char) (heq : s = '-' :: r) : False :=
            hminus (r ++ q) (by rw [heq]; rfl)
          have hplus₀ (r : List Char) (heq : s = '+' :: r) : False :=
            hplus (r ++ q) (by rw [heq]; rfl)
          simp only [span_isDigit_append hq]
          split <;> rfl
    · rw [if_neg hc, if_neg hc]
      rfl

theorem readNumberAfter_append {whole : List Char} (s : List Char) :
    readNumberAfter limits negative whole (s ++ q) =
      (readNumberAfter limits negative whole s).map fun (v, r) => (v, r ++ q) := by
  unfold readNumberAfter
  rw [fraction_append hq]
  dsimp only
  rw [exponent?_append hq]
  cases exponent? (fraction s).2 with
  | some p => rfl
  | none =>
      dsimp only [Option.map_none]
      split
      · split <;> rfl
      · rfl

theorem repeats_readDigits {whole whole' : List Char} (s : List Char) :
    Repeats q s.length (readDigits limits negative whole (s ++ q))
      (readDigits limits negative whole' s) := by
  have hnumber {digits t : List Char} (ht : t.length < s.length) :
      Repeats q s.length (readNumberAfter limits negative digits (t ++ q))
        (readNumberAfter limits negative digits t) := by
    rw [readNumberAfter_append hq]
    exact .of_map fun v r h => (suffix_of_readNumberAfter h).length_le.trans_lt ht
  rcases s with _ | ⟨c, s⟩
  · rw [List.nil_append, readDigits_of_not_isDigit (head?_isDigit_of_blank hq)]
    exact .stop _ _ _
  · obtain ⟨htake, hdrop⟩ := span_isDigit_append hq (c :: s)
    rw [List.cons_append] at htake hdrop ⊢
    unfold readDigits
    split
    next heq =>
        cases heq
        exact hnumber (Nat.lt_succ_self _)
    next hc heq =>
        cases heq
        have hc₀ (t : List Char) (heq : c :: s = '0' :: t) : False := by
          cases heq
          exact hc rfl
        simp only
        split
        next hdigit =>
            rw [htake, hdrop]
            refine hnumber ?_
            rw [List.dropWhile_cons_of_pos hdigit]
            exact Nat.lt_succ_of_le (List.dropWhile_suffix _).length_le
        next => exact .stop _ _ _
    next heq => cases heq

/-! ## Names -/

theorem repeats_word (word : List Char) {s r : List Char} {v : Json} (hword : IsWord word)
    (hlong : s ++ q = word ++ r)
    (hshort : ∀ r₀, readScalar limits (word ++ r₀) = .ok (v, r₀)) :
    Repeats q s.length (.ok (v, r)) (readScalar limits s) := by
  obtain ⟨r₀, rfl, rfl⟩ := eq_append_of_append_eq hq word hword hlong
  rw [hshort r₀]
  refine .ok ?_
  rw [List.length_append]
  exact Nat.lt_add_of_pos_left (List.length_pos_of_ne_nil hword.1)

theorem repeats_readScalar (s : List Char) :
    Repeats q s.length (readScalar limits (s ++ q)) (readScalar limits s) := by
  rw [readScalar.eq_def limits (s ++ q)]
  split
  case h_1 heq => exact repeats_word hq "null".toList (by decide) heq fun _ => rfl
  case h_2 heq => exact repeats_word hq "true".toList (by decide) heq fun _ => rfl
  case h_3 heq => exact repeats_word hq "false".toList (by decide) heq fun _ => rfl
  case h_4 heq => exact repeats_word hq "NaN".toList (by decide) heq fun _ => rfl
  case h_5 heq => exact repeats_word hq "Infinity".toList (by decide) heq fun _ => rfl
  case h_6 heq => exact repeats_word hq "-Infinity".toList (by decide) heq fun _ => rfl
  case h_7 hword heq =>
      obtain ⟨r, rfl, rfl⟩ := eq_append_of_append_eq hq ['-'] (by decide) heq
      have hshort : readScalar limits ('-' :: r) = readDigits limits true ('-' :: r) r := by
        rw [readScalar]
        rintro r₀ rfl
        exact hword _ rfl
      rw [List.singleton_append, hshort]
      exact (repeats_readDigits hq r).mono (Nat.le_succ _)
  case h_8 =>
      have hshort : readScalar limits s = readDigits limits false s s := by
        rw [readScalar]
        all_goals
          rintro r rfl
          simp_all
      rw [hshort]
      exact repeats_readDigits hq s

/-! ## Texts -/

theorem readText_ne_ok {opening : List Char} (skip : Nat) (p : List Char × List Char) :
    readText opening skip q ≠ .ok p := by
  induction q generalizing skip p with
  | nil =>
      intro h
      cases h
  | cons c q ih =>
      have hblank : isBlank c = true := hq c (by simp)
      have ih := ih fun d hd => hq d (List.mem_cons_of_mem c hd)
      cases skip with
      | succ skip => exact ih skip p
      | zero =>
          rw [readText, if_neg (ne_of_isBlank hblank (by decide)),
            if_neg (ne_of_isBlank hblank (by decide))]
          intro h
          split at h
          · cases h
          · cases hrest : readText opening 0 q with
            | error e => rw [hrest] at h; cases h
            | ok rest => exact ih 0 rest hrest

omit hq in
theorem codeUnit?_append {s : List Char} (h : 5 ≤ s.length) :
    codeUnit? (s ++ q) = codeUnit? s := by
  match s, h with
  | _ :: _ :: _ :: _ :: _ :: _, _ => rfl

/-- An escape that ends in front of the blanks is read without them too. Only whether a
surrogate has its partner may depend on what stands behind, and the partner is a part of the
escape then. -/
theorem readUnicodeEscape_append {s : List Char} {c : Char} {taken : Nat}
    (h : readUnicodeEscape ('u' :: (s ++ q)) = .ok (c, taken)) (hlt : taken ≤ s.length) :
    readUnicodeEscape ('u' :: s) = .ok (c, taken) := by
  have hfive : 5 ≤ s.length := (five_le_of_readUnicodeEscape h).trans hlt
  have hdrop : (s ++ q).drop 4 = s.drop 4 ++ q := List.drop_append_of_le_length (by omega)
  unfold readUnicodeEscape at h ⊢
  simp only [List.drop_succ_cons, List.drop_zero, codeUnit?_append hfive, hdrop] at h ⊢
  split at h
  next => cases h
  next n hn =>
      split at h
      next hhigh heq =>
          obtain ⟨r, hr, rfl⟩ := eq_append_of_append_eq hq ['\\', 'u'] (by decide) heq
          have hlength : s.length = r.length + 6 := by
            have hcount : (s.drop 4).length = r.length + 2 := congrArg List.length hr
            rw [List.length_drop] at hcount
            omega
          simp only [hhigh, hr, List.cons_append, List.nil_append]
          by_cases hshort : r.length < 5
          · -- too short for a partner, which would have been a part of the escape
            rw [if_pos hshort]
            split at h
            · exact h
            · split at h
              · cases h
              · split at h
                · have heleven : 11 = taken := (Prod.mk.inj (Except.ok.inj h)).2
                  omega
                · exact h
          · have hlong : ¬(r ++ q).length < 5 := by
              rw [List.length_append]
              omega
            rw [if_neg hlong, codeUnit?_append (Nat.not_lt.1 hshort)] at h
            rw [if_neg hshort]
            cases hm : codeUnit? r with
            | none => rw [hm] at h; cases h
            | some m => rw [hm] at h; exact h
      next hpair =>
          have hpair₀ (r : List Char) (hhigh : Text.isHighSurrogate n = true)
              (heq : s.drop 4 = '\\' :: 'u' :: r) : False :=
            hpair (r ++ q) hhigh (by rw [heq]; rfl)
          simp only
          exact h

theorem readEscape_append {opening opening' whole whole' s : List Char} {c : Char}
    {taken : Nat} (h : readEscape opening whole (s ++ q) = .ok (c, taken))
    (hlt : taken < s.length) : readEscape opening' whole' s = .ok (c, taken) := by
  cases s with
  | nil => exact absurd hlt (Nat.not_lt_zero _)
  | cons d s =>
      rw [List.cons_append] at h
      unfold readEscape at h
      split at h
      case h_1 heq => cases heq
      case h_10 heq =>
          cases heq
          exact readUnicodeEscape_append hq h (Nat.le_of_lt_succ hlt)
      case h_11 => cases h
      all_goals
        next heq =>
          cases heq
          exact h

omit hq in
theorem exists_of_bind_eq_ok {α β : Type} {x : Except Stop α} {f : α → Except Stop β} {b : β}
    (h : x >>= f = .ok b) : ∃ a, x = .ok a ∧ f a = .ok b := by
  cases x with
  | error e => cases h
  | ok a => exact ⟨a, rfl, h⟩

/-- A text that is closed is closed in front of the blanks. -/
theorem readText_append {opening opening' s cs left : List Char} {skip : Nat}
    (h : readText opening skip (s ++ q) = .ok (cs, left)) :
    ∃ r, left = r ++ q ∧ r.length < s.length ∧ readText opening' skip s = .ok (cs, r) := by
  induction s generalizing skip cs left with
  | nil => exact absurd h (readText_ne_ok hq skip _)
  | cons c s ih =>
      have hlt : s.length < (c :: s).length := Nat.lt_succ_self _
      rw [List.cons_append] at h
      cases skip with
      | succ skip =>
          obtain ⟨r, rfl, hr, hread⟩ := ih h
          exact ⟨r, rfl, hr.trans hlt, hread⟩
      | zero =>
          rw [readText] at h ⊢
          split at h
          next hquote =>
              cases h
              exact ⟨s, rfl, hlt, if_pos hquote⟩
          next hquote =>
              rw [if_neg hquote]
              split at h
              next hslash =>
                  obtain ⟨⟨e, taken⟩, hescape, h⟩ := exists_of_bind_eq_ok h
                  obtain ⟨⟨cs, left⟩, hrest, h⟩ := exists_of_bind_eq_ok h
                  cases h
                  obtain ⟨r, rfl, hr, hread⟩ := ih hrest
                  -- the rest is read, so the escape did not reach into the blanks
                  have htaken : taken < s.length := lt_length_of_readText hread
                  refine ⟨r, rfl, hr.trans hlt, ?_⟩
                  rw [if_pos hslash, readEscape_append hq hescape htaken]
                  change (readText opening' taken s >>= _) = _
                  rw [hread]
                  rfl
              next hslash =>
                  split at h
                  next => cases h
                  next hcontrol =>
                      obtain ⟨⟨cs, left⟩, hrest, h⟩ := exists_of_bind_eq_ok h
                      cases h
                      obtain ⟨r, rfl, hr, hread⟩ := ih hrest
                      refine ⟨r, rfl, hr.trans hlt, ?_⟩
                      rw [if_neg hslash, if_neg hcontrol, hread]
                      rfl

theorem repeats_readText (opening opening' s : List Char) :
    Repeats q s.length (readText opening 0 (s ++ q)) (readText opening' 0 s) := by
  rcases unlimited_readText opening 0 (s ++ q) with hflawed | ⟨⟨cs, left⟩, hlong⟩
  · exact .flawed hflawed
  · obtain ⟨r, rfl, hr, hshort⟩ := readText_append hq hlong
    rw [hlong, hshort]
    exact .ok hr

end Scalars

end RequestAtlas.Json
