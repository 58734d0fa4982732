import Mathlib.Data.List.Lex
import RequestAtlas.Proofs.Schema.Reference
import RequestAtlas.Schema.Reader

/-!
# What a reference line is

The reader of a reference tries the longest run first and takes a shorter one only when
nothing behind the longer one can be read. This file says which reference it gives
without that search. A line may hold many readings: at any mark, and with the dots and
arrows inside its words cut in any way. The reader finds one just if there is one, and
it is the one at the leftmost mark that has any, of these the one with the longest first
part, then the longest second part, and so on (`references_read_iff`).

The reader is put together from readers that hand what is left to the next one, so the
proof is put together the same way. A reader picks the best of its readings (`Picks`)
when the reader behind it does: if two readings share their first run, they leave the
same text, and the rest of them decides.
-/

namespace RequestAtlas.Reference

open Text

variable {α : Type}

/-! ## Readings of a text -/

/-- Whether `r` is written at the start of a text. Blanks can stand in front of it and
around the arrow, and anything behind it. -/
def IsWrittenAt (r : Reference) (s : List Char) : Prop :=
  (∀ part ∈ r.parts, IsWord part.toList) ∧
    ∃ before left right rest, (∀ c ∈ before, isBlank c = true) ∧
      (∀ c ∈ left, isBlank c = true) ∧ (∀ c ∈ right, isBlank c = true) ∧
      s = before ++ (r.fromTable.toList ++ '.' :: (r.fromColumn.toList ++ (left ++ '>' ::
        (right ++ (r.toTable.toList ++ '.' :: (r.toColumn.toList ++ rest))))))

/-- The lengths of the four parts. -/
def sizes (r : Reference) : List Nat :=
  r.parts.map String.length

/-- Whether a reference is written behind some mark of a line. -/
def Appears (line : List Char) : Prop :=
  ∃ before rest r, line = before ++ (mark ++ rest) ∧ IsWrittenAt r rest

/-- Whether `r` is the reference of a line: it is written behind the leftmost mark
behind which one is written, and no other one there is longer in the first part in which
the two differ in length. -/
def IsFirstIn (r : Reference) (line : List Char) : Prop :=
  ∃ before rest, line = before ++ (mark ++ rest) ∧ r.IsWrittenAt rest ∧
    (∀ r' : Reference, r'.IsWrittenAt rest → ¬ List.Lex (· < ·) r.sizes r'.sizes) ∧
    ∀ before' rest' r', line = before' ++ (mark ++ rest') → IsWrittenAt r' rest' →
      before.length ≤ before'.length

/-- Whether the references of some lines are these: one for each line in which one
appears, in the order of the lines, and none for the other lines. -/
inductive AreReadFrom : List Reference → List (List Char) → Prop
  | nil : AreReadFrom [] []
  | found {r refs line ls} (first : IsFirstIn r line) (rest : AreReadFrom refs ls) :
      AreReadFrom (r :: refs) (line :: ls)
  | passed {refs line ls} (none : ¬ Appears line) (rest : AreReadFrom refs ls) :
      AreReadFrom refs (line :: ls)

/-! ## A reader that picks the best of its readings -/

/-- Whether a reader succeeds just on the texts that have a reading, with a reading that
none other outgrows; and no two readings of a text have the same sizes. -/
structure Picks (next : List Char → Option α) (Reads : α → List Char → Prop)
    (sizes : α → List Nat) : Prop where
  reads : ∀ {s a}, next s = some a → Reads a s
  best : ∀ {s a b}, next s = some a → Reads b s → ¬ List.Lex (· < ·) (sizes a) (sizes b)
  finds : ∀ {s a}, Reads a s → ∃ b, next s = some b
  unique : ∀ {s a b}, Reads a s → Reads b s → sizes a = sizes b → a = b

/-- A word at the start, and a reading behind it. -/
def ReadsRun (Reads : α → List Char → Prop) (x : List Char × α) (s : List Char) : Prop :=
  IsWord x.1 ∧ ∃ rest, s = x.1 ++ rest ∧ Reads x.2 rest

/-- A reading behind a dot. -/
def ReadsDot (Reads : α → List Char → Prop) (a : α) (s : List Char) : Prop :=
  ∃ rest, s = '.' :: rest ∧ Reads a rest

/-- A reading behind an arrow with blanks around it. -/
def ReadsArrow (Reads : α → List Char → Prop) (a : α) (s : List Char) : Prop :=
  ∃ left right rest, (∀ c ∈ left, isBlank c = true) ∧ (∀ c ∈ right, isBlank c = true) ∧
    s = left ++ '>' :: (right ++ rest) ∧ Reads a rest

section
variable {next : List Char → Option α} {Reads : α → List Char → Prop} {sizes : α → List Nat}

theorem picks_end : Picks (fun _ => some ()) (fun _ _ => True) fun _ => [] where
  reads _ := trivial
  best _ _ h := nomatch h
  finds _ := ⟨(), rfl⟩
  unique _ _ _ := rfl

theorem Picks.exists_longestRun (h : Picks next Reads sizes) {run rest : List Char} {a : α}
    (hrun : IsWord run) (hrest : Reads a rest) :
    ∃ x, longestRun next (run ++ rest) = some x := by
  obtain ⟨hne, hblank⟩ := hrun
  induction run with
  | nil => exact absurd rfl hne
  | cons c run ih =>
      rw [List.cons_append, longestRun, if_neg (by simp [hblank c])]
      cases run with
      | nil =>
          obtain ⟨b, hb⟩ := h.finds hrest
          rw [List.nil_append, hb]
          split <;> simp
      | cons d run =>
          obtain ⟨x, hx⟩ := ih (by simp) fun e he => hblank e (List.mem_cons_of_mem c he)
          rw [hx]
          simp

/-- The induction follows the search. A longer run is taken if there is one, and
otherwise every reading here has a run of one character. -/
theorem Picks.longestRun_best (h : Picks next Reads sizes) {s run run' rest' : List Char}
    {a b : α} (hnext : longestRun next s = some (run, a)) (hrun' : IsWord run')
    (hs : s = run' ++ rest') (hb : Reads b rest') :
    ¬ List.Lex (· < ·) (run.length :: sizes a) (run'.length :: sizes b) := by
  induction s generalizing run run' with
  | nil => cases hnext
  | cons c s ih =>
      obtain ⟨d, run', rfl, hd⟩ := hrun'.exists_cons
      obtain ⟨rfl, rfl⟩ : c = d ∧ s = run' ++ rest' := by simpa using hs
      rw [longestRun, if_neg (by simp [hd])] at hnext
      rw [List.cons_lex_cons_iff]
      split at hnext
      · next longer e hlonger =>
          obtain ⟨rfl, rfl⟩ := Prod.mk.inj (Option.some.inj hnext)
          by_cases hne : run' = []
          · have hlength := List.length_pos_iff.2 (of_longestRun_eq_some hlonger).1.1
            simp only [hne, List.length_cons, List.length_nil]
            omega
          · have hword : IsWord run' := ⟨hne, fun e he => hrun'.2 e (List.mem_cons_of_mem c he)⟩
            have hrest := ih hlonger hword rfl
            rw [List.cons_lex_cons_iff] at hrest
            simpa using hrest
      · next hnone =>
          obtain ⟨e, he, heq⟩ := Option.map_eq_some_iff.1 hnext
          obtain ⟨rfl, rfl⟩ := Prod.mk.inj heq
          by_cases hne : run' = []
          · subst hne
            simpa using h.best he hb
          · have hword : IsWord run' := ⟨hne, fun e he => hrun'.2 e (List.mem_cons_of_mem c he)⟩
            obtain ⟨x, hx⟩ := h.exists_longestRun hword hb
            rw [hnone] at hx
            cases hx

theorem Picks.longestRun (h : Picks next Reads sizes) :
    Picks (longestRun next) (ReadsRun Reads) fun x => x.1.length :: sizes x.2 where
  reads hnext := by
    obtain ⟨hrun, rest, hs, hrest⟩ := of_longestRun_eq_some hnext
    exact ⟨hrun, rest, hs, h.reads hrest⟩
  best hnext hreads := by
    obtain ⟨hrun', rest', hs, hb⟩ := hreads
    exact h.longestRun_best hnext hrun' hs hb
  finds hreads := by
    obtain ⟨hrun, rest, rfl, ha⟩ := hreads
    exact h.exists_longestRun hrun ha
  unique hx hy hsizes := by
    obtain ⟨-, rest, rfl, ha⟩ := hx
    obtain ⟨-, rest', hs, hb⟩ := hy
    obtain ⟨hlength, hrests⟩ := List.cons.inj hsizes
    obtain ⟨hrun, rfl⟩ := List.append_inj hs hlength
    exact Prod.ext hrun (h.unique ha hb hrests)

theorem Picks.afterDot (h : Picks next Reads sizes) :
    Picks (afterDot next) (ReadsDot Reads) sizes where
  reads hnext := by
    obtain ⟨rest, rfl, hrest⟩ := of_afterDot_eq_some hnext
    exact ⟨rest, rfl, h.reads hrest⟩
  best hnext hreads := by
    obtain ⟨rest, rfl, hb⟩ := hreads
    exact h.best hnext hb
  finds hreads := by
    obtain ⟨rest, rfl, ha⟩ := hreads
    exact h.finds ha
  unique ha hb hsizes := by
    obtain ⟨rest, rfl, ha⟩ := ha
    obtain ⟨rest', heq, hb⟩ := hb
    obtain rfl := (List.cons.inj heq).2
    exact h.unique ha hb hsizes

theorem ReadsArrow.afterArrow_eq {a : α} {s : List Char} (h : ReadsArrow Reads a s)
    (hstart : ∀ {b t}, Reads b t → trimStart t = t) :
    ∃ rest, trimStart s = '>' :: rest ∧ Reads a (trimStart rest) := by
  obtain ⟨left, right, rest, hleft, hright, rfl, ha⟩ := h
  refine ⟨right ++ rest, ?_, ?_⟩
  · rw [trimStart_append_of_blank _ hleft, trimStart_cons_of_not_blank _ (by decide)]
  · rw [trimStart_append_of_blank _ hright, hstart ha]
    exact ha

/-- A reading that begins with no blank stands behind all the blanks. -/
theorem Picks.afterArrow (h : Picks next Reads sizes)
    (hstart : ∀ {a s}, Reads a s → trimStart s = s) :
    Picks (afterArrow next) (ReadsArrow Reads) sizes where
  reads {s a} hnext := by
    obtain ⟨rest, hs, hrest⟩ := of_afterArrow_eq_some hnext
    refine ⟨s.takeWhile isBlank, rest.takeWhile isBlank, trimStart rest,
      fun c hc => List.mem_takeWhile_imp hc, fun c hc => List.mem_takeWhile_imp hc, ?_,
      h.reads hrest⟩
    rw [trimStart, List.takeWhile_append_dropWhile, ← hs, trimStart,
      List.takeWhile_append_dropWhile]
  best hnext hreads := by
    obtain ⟨rest, hs, hb⟩ := hreads.afterArrow_eq hstart
    rw [Reference.afterArrow, hs] at hnext
    exact h.best hnext hb
  finds hreads := by
    obtain ⟨rest, hs, ha⟩ := hreads.afterArrow_eq hstart
    rw [Reference.afterArrow, hs]
    exact h.finds ha
  unique ha hb hsizes := by
    obtain ⟨rest, hs, ha⟩ := ha.afterArrow_eq hstart
    obtain ⟨rest', hs', hb⟩ := hb.afterArrow_eq hstart
    obtain rfl := (List.cons.inj (hs.symm.trans hs')).2
    exact h.unique ha hb hsizes

theorem Picks.readEnd (h : Picks next Reads sizes) :
    Picks (readEnd next) (ReadsRun (ReadsDot (ReadsRun Reads)))
      fun x => x.1.length :: x.2.1.length :: sizes x.2.2 :=
  h.longestRun.afterDot.longestRun

theorem ReadsRun.trimStart_eq {x : List Char × α} {s : List Char} (h : ReadsRun Reads x s) :
    trimStart s = s := by
  obtain ⟨hrun, rest, rfl, -⟩ := h
  exact hrun.trimStart_append rest

end

/-! ## The reference behind a mark -/

/-- What the reader of the four parts gives for a reference. -/
def runs (r : Reference) : List Char × List Char × List Char × List Char × Unit :=
  (r.fromTable.toList, r.fromColumn.toList, r.toTable.toList, r.toColumn.toList, ())

theorem isWrittenAt_iff {r : Reference} {s : List Char} :
    r.IsWrittenAt s ↔
      ReadsRun (ReadsDot (ReadsRun (ReadsArrow
        (ReadsRun (ReadsDot (ReadsRun fun _ _ => True)))))) r.runs (trimStart s) := by
  constructor
  · rintro ⟨hwords, before, left, right, rest, hbefore, hleft, hright, rfl⟩
    simp only [parts, List.forall_mem_cons] at hwords
    obtain ⟨hfrom, hcolumn, hto, hlast, -⟩ := hwords
    rw [trimStart_append_of_blank _ hbefore, hfrom.trimStart_append]
    exact ⟨hfrom, _, rfl, _, rfl, hcolumn, _, rfl, left, right, _, hleft, hright, rfl,
      hto, _, rfl, _, rfl, hlast, rest, rfl, trivial⟩
  · rintro ⟨hfrom, _, hs, _, rfl, hcolumn, _, rfl, left, right, _, hleft, hright, rfl,
      hto, _, rfl, _, rfl, hlast, rest, rfl, -⟩
    refine ⟨?_, s.takeWhile isBlank, left, right, rest,
      fun c hc => List.mem_takeWhile_imp hc, hleft, hright, ?_⟩
    · simp only [parts, List.forall_mem_cons]
      exact ⟨hfrom, hcolumn, hto, hlast, fun _ h => absurd h List.not_mem_nil⟩
    · conv_lhs => rw [← List.takeWhile_append_dropWhile (p := isBlank) (l := s)]
      exact congrArg _ hs

theorem readBody?_eq_some_iff {s : List Char} {r : Reference} :
    readBody? s = some r ↔
      readEnd (afterArrow (readEnd fun _ => some ())) (trimStart s) = some r.runs := by
  rw [readBody?]
  constructor
  · intro h
    split at h
    · next hread =>
        obtain rfl := Option.some.inj h
        rw [hread]
        simp [runs]
    · cases h
  · intro h
    rw [h]
    simp [runs]

theorem picks_readBody? : Picks readBody? IsWrittenAt sizes := by
  have hread := (picks_end.readEnd.afterArrow ReadsRun.trimStart_eq).readEnd
  have hsizes : ∀ r : Reference, r.sizes =
      [r.fromTable.toList.length, r.fromColumn.toList.length, r.toTable.toList.length,
        r.toColumn.toList.length] := fun r => by
    simp only [sizes, parts, List.map_cons, List.map_nil, String.length_toList]
  constructor
  case reads => exact fun h => isWrittenAt_iff.2 (hread.reads (readBody?_eq_some_iff.1 h))
  case best =>
    intro s a b ha hb
    rw [hsizes, hsizes]
    exact hread.best (readBody?_eq_some_iff.1 ha) (isWrittenAt_iff.1 hb)
  case finds =>
    intro s a ha
    obtain ⟨⟨x, y, z, w, last⟩, hx⟩ := hread.finds (isWrittenAt_iff.1 ha)
    refine ⟨⟨String.ofList x, String.ofList y, String.ofList z, String.ofList w⟩, ?_⟩
    rw [readBody?_eq_some_iff, hx]
    simp [runs]
  case unique =>
    intro s a b ha hb heq
    rw [hsizes, hsizes] at heq
    have hruns : a.runs = b.runs := hread.unique (isWrittenAt_iff.1 ha) (isWrittenAt_iff.1 hb) heq
    obtain ⟨_, _, _, _⟩ := a
    obtain ⟨_, _, _, _⟩ := b
    simpa [runs, String.toList_inj] using hruns

/-! ## The reference of a line -/

theorem isFirstIn_of_find? {line : List Char} {r : Reference} (h : find? line = some r) :
    r.IsFirstIn line := by
  induction line with
  | nil => cases h
  | cons c line ih =>
      rw [find?] at h
      split at h
      · next found hfound =>
          obtain rfl := Option.some.inj h
          obtain ⟨rest, hafter, hbody⟩ := Option.bind_eq_some_iff.1 hfound
          have hline : c :: line = mark ++ rest := afterStart?_eq_some_iff.1 hafter
          exact ⟨[], rest, hline, picks_readBody?.reads hbody,
            fun r' hr' => picks_readBody?.best hbody hr', fun _ _ _ _ _ => Nat.zero_le _⟩
      · next hnone =>
          obtain ⟨before, rest, rfl, hwritten, hbest, hleftmost⟩ := ih h
          refine ⟨c :: before, rest, rfl, hwritten, hbest, fun before' rest' r' hline hr' => ?_⟩
          cases before' with
          | nil =>
              -- a reference in front of all others would have been read
              obtain ⟨b, hb⟩ := picks_readBody?.finds hr'
              have hafter : afterStart? mark (c :: (before ++ (mark ++ rest))) = some rest' :=
                afterStart?_eq_some_iff.2 hline
              rw [hafter, Option.bind_some, hb] at hnone
              cases hnone
          | cons d before' =>
              have hle := hleftmost before' rest' r' (List.cons.inj hline).2 hr'
              simpa using hle

theorem exists_find?_of_appears {line : List Char} (h : Appears line) :
    ∃ r, find? line = some r := by
  obtain ⟨before, rest, r, rfl, hr⟩ := h
  induction before with
  | nil =>
      obtain ⟨found, hfound⟩ := picks_readBody?.finds hr
      exact ⟨found, find?_mark hfound⟩
  | cons c before ih =>
      rw [List.cons_append, find?]
      split
      · next found _ => exact ⟨found, rfl⟩
      · exact ih

theorem IsFirstIn.appears {line : List Char} {r : Reference} (h : r.IsFirstIn line) :
    Appears line := by
  obtain ⟨before, rest, hline, hr, -⟩ := h
  exact ⟨before, rest, r, hline, hr⟩

/-- A line has one reference at most. -/
theorem IsFirstIn.eq {line : List Char} {r r' : Reference} (h : r.IsFirstIn line)
    (h' : r'.IsFirstIn line) : r = r' := by
  obtain ⟨before, rest, hline, hr, hbest, hleftmost⟩ := h
  obtain ⟨before', rest', hline', hr', hbest', hleftmost'⟩ := h'
  have hlength : before.length = before'.length :=
    Nat.le_antisymm (hleftmost _ _ _ hline' hr') (hleftmost' _ _ _ hline hr)
  obtain ⟨rfl, hmark⟩ := List.append_inj (hline.symm.trans hline') hlength
  obtain rfl := List.append_cancel_left hmark
  refine picks_readBody?.unique hr hr' ?_
  exact Std.Trichotomous.trichotomous (r := List.Lex (· < ·)) _ _ (hbest r' hr') (hbest' r hr)

theorem find?_eq_some_iff {line : List Char} {r : Reference} :
    find? line = some r ↔ r.IsFirstIn line := by
  constructor
  · exact isFirstIn_of_find?
  · intro h
    obtain ⟨found, hfound⟩ := exists_find?_of_appears h.appears
    rw [hfound, (isFirstIn_of_find? hfound).eq h]

theorem find?_eq_none_iff {line : List Char} : find? line = none ↔ ¬ Appears line := by
  constructor
  · intro hnone happears
    obtain ⟨r, hr⟩ := exists_find?_of_appears happears
    rw [hnone] at hr
    cases hr
  · intro h
    rw [Option.eq_none_iff_forall_ne_some]
    exact fun r hr => h (find?_eq_some_iff.1 hr).appears

/-! ## The references of a text -/

theorem filterMap_find?_eq_iff {ls : List (List Char)} {refs : List Reference} :
    ls.filterMap find? = refs ↔ AreReadFrom refs ls := by
  constructor
  · rintro rfl
    induction ls with
    | nil => exact .nil
    | cons line ls ih =>
        cases hline : find? line with
        | none =>
            rw [List.filterMap_cons_none hline]
            exact .passed (find?_eq_none_iff.1 hline) ih
        | some r =>
            rw [List.filterMap_cons_some hline]
            exact .found (find?_eq_some_iff.1 hline) ih
  · intro h
    induction h with
    | nil => rfl
    | found first _ ih => rw [List.filterMap_cons_some (find?_eq_some_iff.2 first), ih]
    | passed none _ ih => rw [List.filterMap_cons_none (find?_eq_none_iff.2 none), ih]

/-- The references of a text are those that are written in its lines, the first of each
line in which one is written. -/
theorem references_read_iff (text : String) (refs : List Reference) :
    (Schema.read text).references = refs ↔ AreReadFrom refs (lines text.toList) :=
  filterMap_find?_eq_iff

/-- Dots and arrows inside a word: the first part reaches as far as it can, and the
third and fourth take what is behind the arrow that this leaves. -/
example : (Schema.read "see Ref: > Ref: a.b.c>d.e > x.y.z>w.v").references =
    [⟨"a.b.c>d", "e", "x.y.z>w", "v"⟩] := by
  decide +kernel

end RequestAtlas.Reference
