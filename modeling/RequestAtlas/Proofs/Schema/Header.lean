import RequestAtlas.Proofs.Text.Cuts
import RequestAtlas.Schema.Reader

/-!
# What a header line is

The reader of a header walks over the line and cuts where the characters change. This
file says what it accepts without the walk: the word `Table`, blanks, a name, perhaps
more blanks, and then the end of the line or a brace (`readHeader?_eq_some_iff`). The
name is a word with a brace in first place only, which is what makes the cut behind it
the one that is possible.

A header as people write it, with one space in front of the name, opens its table with
the brace on its line (`readLine_header_brace`) or waits for the line that begins with
it (`readLine_header`, `readLine_brace_tail`).
-/

namespace RequestAtlas.Schema

open Text

/-- Whether a text can be the name in a header: a word that has no brace behind its
first character. -/
structure IsName (name : List Char) : Prop where
  isWord : IsWord name
  brace : '\x7b' ∉ name.tail

/-- Whether a text can stand behind the name and its blanks: nothing, or a brace and
what follows it. -/
def IsRest (rest : List Char) : Prop :=
  rest = [] ∨ ∃ body, rest = '\x7b' :: body

theorem isName_of_isWord {name : List Char} (h : IsWord name) (hbrace : '\x7b' ∉ name) :
    IsName name :=
  ⟨h, fun htail => hbrace (List.mem_of_mem_tail htail)⟩

/-- The name under which a header waits is its own, unless that is a lone brace. -/
theorem dropEndWhile_brace {name : List Char} (h : IsName name) :
    dropEndWhile (· == '\x7b') name = name ∨ name = ['\x7b'] := by
  rw [dropEndWhile_eq_rdropWhile, List.rdropWhile_eq_self_iff]
  obtain ⟨c, r, rfl, -⟩ := h.isWord.exists_cons
  cases r with
  | nil =>
      by_cases hc : c = '\x7b'
      · exact .inr (by rw [hc])
      · exact .inl (by simpa using hc)
  | cons d r =>
      -- the last character is one of the tail, where a name has no brace
      refine .inl fun hne hlast => h.brace ?_
      rw [List.getLast_cons (List.cons_ne_nil d r)] at hlast
      exact beq_iff_eq.1 hlast ▸ List.getLast_mem _

theorem IsRest.trimStart_eq {rest : List Char} (h : IsRest rest) : trimStart rest = rest := by
  rcases h with rfl | ⟨body, rfl⟩
  · rfl
  · exact trimStart_cons_of_not_blank body (by decide)

theorem continuesName_iff {c : Char} :
    continuesName c = true ↔ isBlank c = false ∧ c ≠ '\x7b' := by
  simp [continuesName]

theorem not_continuesName_of_mem_head? {v rest : List Char} (hv : ∀ c ∈ v, isBlank c = true)
    (hrest : IsRest rest) : ∀ c ∈ (v ++ rest).head?, continuesName c = false := by
  intro c hc
  cases v with
  | nil =>
      rcases hrest with rfl | ⟨body, rfl⟩
      · cases hc
      · obtain rfl : '\x7b' = c := by simpa using hc
        decide
  | cons d v =>
      obtain rfl : d = c := by simpa using hc
      simp [continuesName, hv d (by simp)]

theorem readName?_append {name v rest : List Char} (hname : IsName name)
    (hv : ∀ c ∈ v, isBlank c = true) (hrest : IsRest rest) :
    readName? (name ++ (v ++ rest)) = some (name, rest) := by
  obtain ⟨c, r, rfl, -⟩ := hname.isWord.exists_cons
  have hr : ∀ d ∈ r, continuesName d = true := fun d hd =>
    continuesName_iff.2 ⟨hname.isWord.2 d (List.mem_cons_of_mem c hd),
      fun heq => hname.brace (heq ▸ hd)⟩
  obtain ⟨htake, hdrop⟩ := span_append hr (not_continuesName_of_mem_head? hv hrest)
  rw [List.cons_append, readName?, htake, hdrop,
    trimStart_append_of_blank rest hv, hrest.trimStart_eq]
  rcases hrest with rfl | ⟨body, rfl⟩ <;> rfl

theorem of_readName?_eq_some {s name rest : List Char} (hs : trimStart s = s)
    (h : readName? s = some (name, rest)) :
    IsName name ∧ IsRest rest ∧ ∃ v, (∀ c ∈ v, isBlank c = true) ∧ s = name ++ (v ++ rest) := by
  cases s with
  | nil => cases h
  | cons c r =>
      have hc : isBlank c = false := trimStart_eq_self_iff.1 hs c rfl
      have hcontinues : ∀ d ∈ r.takeWhile continuesName, isBlank d = false ∧ d ≠ '\x7b' :=
        fun d hd => continuesName_iff.1 (List.mem_takeWhile_imp hd)
      have hname : IsName (c :: r.takeWhile continuesName) := by
        refine ⟨⟨by simp, ?_⟩, fun hbrace => (hcontinues _ hbrace).2 rfl⟩
        rw [List.forall_mem_cons]
        exact ⟨hc, fun d hd => (hcontinues d hd).1⟩
      have hcut : c :: r = c :: r.takeWhile continuesName ++
          ((r.dropWhile continuesName).takeWhile isBlank ++
            trimStart (r.dropWhile continuesName)) := by
        rw [trimStart, List.takeWhile_append_dropWhile, List.cons_append,
          List.takeWhile_append_dropWhile]
      have hblank : ∀ d ∈ (r.dropWhile continuesName).takeWhile isBlank, isBlank d = true :=
        fun d hd => List.mem_takeWhile_imp hd
      rw [readName?] at h
      split at h
      · next hrest =>
          obtain ⟨rfl, rfl⟩ := Prod.mk.inj (Option.some.inj h)
          exact ⟨hname, .inl rfl, _, hblank, by rw [hrest] at hcut; exact hcut⟩
      · next body hrest =>
          obtain ⟨rfl, rfl⟩ := Prod.mk.inj (Option.some.inj h)
          exact ⟨hname, .inr ⟨body, rfl⟩, _, hblank, by rw [hrest] at hcut; exact hcut⟩
      · cases h

/-- A line is a header with the given name and rest just if it is put together from the
word, blanks, the name, perhaps more blanks, and the rest. -/
theorem readHeader?_eq_some_iff {line name rest : List Char} :
    readHeader? line = some (name, rest) ↔
      IsName name ∧ IsRest rest ∧ ∃ w v, w ≠ [] ∧ (∀ c ∈ w, isBlank c = true) ∧
        (∀ c ∈ v, isBlank c = true) ∧ line = headerWord ++ (w ++ (name ++ (v ++ rest))) := by
  constructor
  · intro h
    rw [readHeader?] at h
    split at h
    · next c r hafter =>
        split at h
        · next hc =>
            obtain ⟨hname, hrest, v, hv, hr⟩ := of_readName?_eq_some (trimStart_trimStart r) h
            have hline : line = headerWord ++ (c :: r) := afterStart?_eq_some_iff.1 hafter
            have hcut : r = r.takeWhile isBlank ++ (name ++ (v ++ rest)) := by
              rw [← hr, trimStart, List.takeWhile_append_dropWhile]
            refine ⟨hname, hrest, c :: r.takeWhile isBlank, v, by simp, ?_, hv, ?_⟩
            · rw [List.forall_mem_cons]
              exact ⟨hc, fun d hd => List.mem_takeWhile_imp hd⟩
            · rw [List.cons_append, ← hcut]
              exact hline
        · cases h
    · cases h
  · rintro ⟨hname, hrest, w, v, hne, hw, hv, rfl⟩
    obtain ⟨c, w, rfl⟩ := List.exists_cons_of_ne_nil hne
    rw [List.forall_mem_cons] at hw
    rw [readHeader?, afterStart?_eq_some_iff.2 rfl]
    dsimp only [List.cons_append]
    rw [if_pos hw.1, trimStart_append_of_blank _ hw.2, hname.isWord.trimStart_append]
    exact readName?_append hname hv hrest

/-! ## The line of a header and the line of its brace -/

section
variable {name : List Char}

theorem headerWord_isWord : IsWord headerWord := by decide

/-- A header line with its brace begins the body with what stands behind the brace. -/
theorem readLine_header_brace (tail : List Char) (hname : IsWord name)
    (hbrace : '\x7b' ∉ name) :
    readLine .start (headerWord ++ ([' '] ++ (name ++ ([' '] ++ '\x7b' :: tail)))) =
      readBody none name [] (trimEnd tail) := by
  have htrim : trim (headerWord ++ ([' '] ++ (name ++ ([' '] ++ '\x7b' :: tail)))) =
      headerWord ++ ([' '] ++ (name ++ ([' '] ++ '\x7b' :: trimEnd tail))) := by
    have hend := trimEnd_append_cons ([' '] ++ (name ++ [' '])) tail
      (by decide : isBlank '\x7b' = false)
    rw [headerWord_isWord.trim_append]
    simp only [List.append_assoc] at hend ⊢
    rw [hend]
  have hheader : readHeader?
      (headerWord ++ ([' '] ++ (name ++ ([' '] ++ '\x7b' :: trimEnd tail)))) =
        some (name, '\x7b' :: trimEnd tail) :=
    readHeader?_eq_some_iff.2 ⟨isName_of_isWord hname hbrace, .inr ⟨_, rfl⟩, [' '], [' '],
      by simp, blank_space, blank_space, rfl⟩
  rw [readLine_start, htrim, readOutside, hheader]

theorem readLine_header (hname : IsWord name) (hbrace : '\x7b' ∉ name) :
    readLine .start (headerWord ++ ([' '] ++ name)) = (.outside (some name), none) := by
  have htrim : trim (headerWord ++ ([' '] ++ name)) = headerWord ++ ([' '] ++ name) := by
    rw [headerWord_isWord.trim_append, hname.trimEnd_append]
  have hheader : readHeader? (headerWord ++ ([' '] ++ name)) = some (name, []) :=
    readHeader?_eq_some_iff.2 ⟨isName_of_isWord hname hbrace, .inl rfl, [' '], [],
      by simp, blank_space, by simp, by simp⟩
  have hlast : dropEndWhile (· == '\x7b') name = name := by
    refine (dropEndWhile_brace (isName_of_isWord hname hbrace)).resolve_right ?_
    rintro rfl
    exact hbrace (by simp)
  rw [readLine_start, htrim, readOutside, hheader]
  dsimp only
  rw [hlast]

theorem readLine_brace_tail (name tail : List Char) :
    readLine (.outside (some name)) ('\x7b' :: tail) = readBody none name [] (trimEnd tail) := by
  have hword : IsWord ['\x7b'] := by decide
  exact readLine_brace name (hword.trim_append tail)

end

end RequestAtlas.Schema
