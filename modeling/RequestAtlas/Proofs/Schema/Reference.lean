import RequestAtlas.Proofs.Text.Cuts
import RequestAtlas.Schema.Reference

/-!
# How a reference is read

The reader of a reference is put together from readers that hand what is left to the
next one, so each law of it is proved once for each of them and then put together the
same way.

Three laws are here. Words with a dot between them, in front of a blank or the end,
are read as they stand (`readEnd_append`). What is read is made of words
(`isWord_of_find?`). And blanks at either end of a line make no difference
(`find?_append_blank`, `find?_blank_append`): behind the last word no reader can
use them, and in front of the first there is no mark yet.
-/

namespace RequestAtlas.Reference

open Text

/-- The four parts of a reference. -/
def parts (r : Reference) : List String :=
  [r.fromTable, r.fromColumn, r.toTable, r.toColumn]

variable {α : Type}

/-! ## Words are read as they stand -/

/-- The longest run is the one at hand when its rest is accepted and gives no
longer one. -/
theorem longestRun_append {next : List Char → Option α} {run rest : List Char} {a : α}
    (hrun : IsWord run) (hnext : next rest = some a) (hrest : longestRun next rest = none) :
    longestRun next (run ++ rest) = some (run, a) := by
  obtain ⟨hne, hblank⟩ := hrun
  induction run with
  | nil => exact absurd rfl hne
  | cons c run ih =>
      rw [List.cons_append, longestRun, if_neg (by simp [hblank c])]
      cases run with
      | nil =>
          rw [List.nil_append, hrest]
          dsimp only
          rw [hnext]
          rfl
      | cons d run =>
          rw [ih (by simp) fun e he => hblank e (List.mem_cons_of_mem c he)]

theorem longestRun_eq_none {next : List Char → Option α} {s : List Char}
    (h : ∀ c ∈ s.head?, isBlank c = true) : longestRun next s = none := by
  cases s with
  | nil => rfl
  | cons c s => rw [longestRun, if_pos (h c rfl)]

theorem afterDot_eq_none {next : List Char → Option α} {s rest : List Char}
    (hs : '.' ∉ s) (hrest : ∀ c ∈ rest.head?, isBlank c = true) :
    afterDot next (s ++ rest) = none := by
  have hhead : ∀ c ∈ (s ++ rest).head?, c ≠ '.' := by
    intro c hc hdot
    cases s with
    | nil => exact ne_of_isBlank (hrest c hc) (by decide) hdot
    | cons d s =>
        obtain rfl : d = c := by simpa using hc
        exact hs (by simp [hdot])
  cases hsplit : s ++ rest with
  | nil => rfl
  | cons c r =>
      rw [hsplit] at hhead
      rw [afterDot]
      intro r' heq
      exact hhead c rfl (List.cons.inj heq).1

/-- A run that has to end in front of a dot does not end in a text without dots
behind its first character. -/
theorem longestRun_afterDot_eq_none {next : List Char → Option α} {c : Char}
    {s rest : List Char} (hs : '.' ∉ s) (hrest : ∀ c ∈ rest.head?, isBlank c = true) :
    longestRun (afterDot next) (c :: (s ++ rest)) = none := by
  induction s generalizing c with
  | nil =>
      rw [longestRun, List.nil_append, longestRun_eq_none hrest]
      dsimp only
      rw [← List.nil_append rest, afterDot_eq_none (by simp) hrest]
      simp
  | cons d s ih =>
      rw [longestRun, List.cons_append, ih fun hd => hs (List.mem_cons_of_mem d hd)]
      dsimp only
      rw [← List.cons_append, afterDot_eq_none hs hrest]
      simp

/-- Two words with a dot between them, in front of a blank or the end. -/
theorem readEnd_append {next : List Char → Option α} {x y rest : List Char} {a : α}
    (hx : IsWord x) (hy : IsWord y) (hdot : '.' ∉ y) (hnext : next rest = some a)
    (hrest : ∀ c ∈ rest.head?, isBlank c = true) :
    readEnd next (x ++ '.' :: (y ++ rest)) = some (x, y, a) := by
  have hsecond : afterDot (longestRun next) ('.' :: (y ++ rest)) = some (y, a) :=
    longestRun_append hy hnext (longestRun_eq_none hrest)
  exact longestRun_append hx hsecond (longestRun_afterDot_eq_none hdot hrest)

theorem find?_mark {rest : List Char} {ref : Reference} (h : readBody? rest = some ref) :
    find? (mark ++ rest) = some ref := by
  have hafter : afterStart? mark ('R' :: 'e' :: 'f' :: ':' :: rest) = some rest :=
    afterStart?_eq_some_iff.2 rfl
  show find? ('R' :: 'e' :: 'f' :: ':' :: rest) = some ref
  rw [find?, hafter, Option.bind_some, h]

theorem find?_eq_none {line : List Char} (h : ¬ mark <:+: line) : find? line = none := by
  induction line with
  | nil => rfl
  | cons c line ih =>
      rw [List.infix_cons_iff, not_or] at h
      have hafter : afterStart? mark (c :: line) = none := by
        rw [Option.eq_none_iff_forall_not_mem]
        intro rest hrest
        exact h.1 ⟨rest, (afterStart?_eq_some_iff.1 hrest).symm⟩
      rw [find?, hafter, Option.bind_none, ih h.2]

/-! ## What is read is made of words -/

theorem of_longestRun_eq_some {next : List Char → Option α} {s run : List Char} {a : α}
    (h : longestRun next s = some (run, a)) :
    IsWord run ∧ ∃ rest, s = run ++ rest ∧ next rest = some a := by
  induction s generalizing run with
  | nil => cases h
  | cons c s ih =>
      rw [longestRun] at h
      split at h
      · cases h
      · next hc =>
          have hblank : isBlank c = false := by simpa using hc
          split at h
          · next longer b hlonger =>
              obtain ⟨rfl, rfl⟩ := Prod.mk.inj (Option.some.inj h)
              obtain ⟨hword, rest, rfl, hnext⟩ := ih hlonger
              refine ⟨⟨by simp, ?_⟩, rest, rfl, hnext⟩
              exact List.forall_mem_cons.2 ⟨hblank, hword.2⟩
          · obtain ⟨b, hnext, heq⟩ := Option.map_eq_some_iff.1 h
            obtain ⟨rfl, rfl⟩ := Prod.mk.inj heq
            exact ⟨⟨by simp, by simpa using hblank⟩, s, rfl, hnext⟩

theorem of_afterDot_eq_some {next : List Char → Option α} {s : List Char} {a : α}
    (h : afterDot next s = some a) : ∃ rest, s = '.' :: rest ∧ next rest = some a := by
  rw [afterDot.eq_def] at h
  split at h
  · next rest => exact ⟨rest, rfl, h⟩
  · cases h

theorem of_afterArrow_eq_some {next : List Char → Option α} {s : List Char} {a : α}
    (h : afterArrow next s = some a) :
    ∃ rest, trimStart s = '>' :: rest ∧ next (trimStart rest) = some a := by
  rw [afterArrow] at h
  split at h
  · next rest hrest => exact ⟨rest, hrest, h⟩
  · cases h

theorem of_readEnd_eq_some {next : List Char → Option α} {s x y : List Char} {a : α}
    (h : readEnd next s = some (x, y, a)) :
    IsWord x ∧ IsWord y ∧ ∃ rest, s = x ++ '.' :: (y ++ rest) ∧ next rest = some a := by
  obtain ⟨hx, behind, rfl, hdot⟩ := of_longestRun_eq_some h
  obtain ⟨behind, rfl, hrun⟩ := of_afterDot_eq_some hdot
  obtain ⟨hy, rest, rfl, hnext⟩ := of_longestRun_eq_some hrun
  exact ⟨hx, hy, rest, rfl, hnext⟩

theorem isWord_of_readBody? {s : List Char} {r : Reference} (h : readBody? s = some r) :
    ∀ part ∈ r.parts, IsWord part.toList := by
  rw [readBody?] at h
  split at h
  · next a b c d hread =>
      obtain rfl := Option.some.inj h
      obtain ⟨ha, hb, behind, -, harrow⟩ := of_readEnd_eq_some hread
      obtain ⟨behind, -, hread⟩ := of_afterArrow_eq_some harrow
      obtain ⟨hc, hd, -⟩ := of_readEnd_eq_some hread
      simp [parts, ha, hb, hc, hd]
  · cases h

/-- What is found in a line stands right behind a mark. -/
theorem exists_mark_of_find? {line : List Char} {r : Reference} (h : find? line = some r) :
    ∃ rest, mark ++ rest <:+ line ∧ readBody? rest = some r := by
  induction line with
  | nil => cases h
  | cons c line ih =>
      rw [find?] at h
      split at h
      · next found hfound =>
          obtain rfl := Option.some.inj h
          obtain ⟨rest, hafter, hbody⟩ := Option.bind_eq_some_iff.1 hfound
          have hline : c :: line = mark ++ rest := afterStart?_eq_some_iff.1 hafter
          exact ⟨rest, hline ▸ List.suffix_rfl, hbody⟩
      · obtain ⟨rest, hmark, hbody⟩ := ih h
        exact ⟨rest, hmark.trans (List.suffix_cons c line), hbody⟩

theorem isWord_of_find? {line : List Char} {r : Reference} (h : find? line = some r) :
    ∀ part ∈ r.parts, IsWord part.toList := by
  obtain ⟨rest, -, hbody⟩ := exists_mark_of_find? h
  exact isWord_of_readBody? hbody

/-! ## Blanks at the ends of a line -/

/-- Whether a reader gives the same with a certain text behind what it reads. -/
def IgnoresEnd (q : List Char) (next : List Char → Option α) : Prop :=
  ∀ s, next (s ++ q) = next s

section
variable {q : List Char} {next : List Char → Option α}

theorem IgnoresEnd.longestRun (h : IgnoresEnd q next) (hq : ∀ c ∈ q, isBlank c = true) :
    IgnoresEnd q (longestRun next) := by
  intro s
  induction s with
  | nil => exact longestRun_eq_none fun c hc => hq c (List.mem_of_mem_head? hc)
  | cons c s ih => rw [List.cons_append, Reference.longestRun, Reference.longestRun, ih, h s]

theorem IgnoresEnd.afterDot (h : IgnoresEnd q next) (hq : ∀ c ∈ q, isBlank c = true) :
    IgnoresEnd q (afterDot next) := by
  intro s
  cases s with
  | nil => exact afterDot_eq_none (by simp) fun c hc => hq c (List.mem_of_mem_head? hc)
  | cons c s =>
      by_cases hdot : c = '.'
      · subst hdot
        exact h s
      · have hc : ∀ t r, c :: t = '.' :: r → False := fun t r heq => hdot (List.cons.inj heq).1
        rw [List.cons_append, afterDot.eq_2 _ _ (hc _), afterDot.eq_2 _ _ (hc _)]

theorem IgnoresEnd.trimStart (h : IgnoresEnd q next) (hq : ∀ c ∈ q, isBlank c = true) :
    IgnoresEnd q fun s => next (trimStart s) := by
  intro s
  dsimp only
  rcases trimStart_append_blank s hq with hs | hs
  · rw [hs]
  · rw [hs, h]

theorem IgnoresEnd.afterArrow (h : IgnoresEnd q next) (hq : ∀ c ∈ q, isBlank c = true) :
    IgnoresEnd q (afterArrow next) := by
  intro s
  rw [Reference.afterArrow, Reference.afterArrow]
  rcases trimStart_append_blank s hq with hs | hs
  · rw [hs]
  · rw [hs]
    cases Text.trimStart s with
    | nil =>
        -- the arrow would have to be among the blanks
        cases q with
        | nil => rfl
        | cons d q =>
            have harrow : d ≠ '>' := ne_of_isBlank (hq d (by simp)) (by decide)
            simp [harrow]
    | cons c r =>
        by_cases harrow : c = '>'
        · subst harrow
          exact h.trimStart hq r
        · simp [harrow]

theorem IgnoresEnd.readEnd (h : IgnoresEnd q next) (hq : ∀ c ∈ q, isBlank c = true) :
    IgnoresEnd q (readEnd next) :=
  ((h.longestRun hq).afterDot hq).longestRun hq

theorem readBody?_append_blank (s : List Char) (hq : ∀ c ∈ q, isBlank c = true) :
    readBody? (s ++ q) = readBody? s := by
  have hlast : IgnoresEnd q fun _ => some () := fun _ => rfl
  have hread := (((hlast.readEnd hq).afterArrow hq).readEnd hq).trimStart hq s
  dsimp only at hread
  rw [readBody?, readBody?, hread]

end

theorem mark_isWord : IsWord mark := by decide

theorem find?_append_blank {q : List Char} (line : List Char) (hq : ∀ c ∈ q, isBlank c = true) :
    find? (line ++ q) = find? line := by
  have hmark : ∀ c ∈ mark, c ∉ q := fun c hc hmem =>
    ne_of_isBlank (hq c hmem) (mark_isWord.2 c hc) rfl
  induction line with
  | nil =>
      -- blanks alone hold no mark
      refine find?_eq_none fun hholds => ?_
      exact hmark 'R' (by decide) (List.IsInfix.subset hholds (by decide))
  | cons c line ih =>
      have hbody : ∀ rest, readBody? (rest ++ q) = readBody? rest := fun rest =>
        readBody?_append_blank rest hq
      rw [List.cons_append, find?, find?, ih, ← List.cons_append,
        afterStart?_append (c :: line) hmark, Option.bind_map]
      simp only [Function.comp_def, hbody]

theorem find?_blank_append {p : List Char} (line : List Char) (hp : ∀ c ∈ p, isBlank c = true) :
    find? (p ++ line) = find? line := by
  induction p with
  | nil => rfl
  | cons c p ih =>
      rw [List.forall_mem_cons] at hp
      have hafter : afterStart? mark (c :: (p ++ line)) = none := by
        have hc : 'R' ≠ c := (ne_of_isBlank hp.1 (by decide)).symm
        exact if_neg hc
      rw [List.cons_append, find?, hafter, Option.bind_none, ih hp.2]

end RequestAtlas.Reference
