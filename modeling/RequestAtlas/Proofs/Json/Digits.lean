import RequestAtlas.Proofs.Json.Depth
import RequestAtlas.Proofs.Json.Trimmed

/-!
# Integers that are too long

A reader that stops at an integer for its length has come to a run of that many digits in its
text, and to more of them than the limit allows (`read_longInteger`). A text without such a run
is therefore read, or it is malformed, or it is too deep.

What a reader leaves is an end of its text, so the run is found in the text that the reader was
given at the start. Both facts are about one reading and are carried together through the ones
that follow it (`Scans.bind`); the readers call each other, and one induction on their fuel does
for all three (`scans_readers`).

The other way round a run does not stop the reader wherever it stands: it may be a fraction, or
a part of a text. It does so where it is a value (`readValue_longInteger`).
-/

namespace RequestAtlas.Json

/-- Whether a text has so many digits in a row. -/
def HasDigits (s : List Char) (n : Nat) : Prop :=
  ∃ run, run <:+: s ∧ run.length = n ∧ ∀ c ∈ run, c.isDigit = true

theorem HasDigits.mono {s t : List Char} {n : Nat} (h : HasDigits s n) (hst : s <:+: t) :
    HasDigits t n := by
  obtain ⟨run, hrun, hlength, hdigits⟩ := h
  exact ⟨run, hrun.trans hst, hlength, hdigits⟩

/-- How a reading of a text goes: it leaves an end of the text, or it stops at a flaw or for the
depth, or at more digits in a row than the limit allows. -/
inductive Scans {α : Type} (digits : Option Nat) (s : List Char) :
    Except Stop (α × List Char) → Prop
  | ok {a r} (h : r <:+ s) : Scans digits s (.ok (a, r))
  | malformed (flaw : Flaw) (left : List Char) : Scans digits s (stop flaw left)
  | tooDeep (container : Container) : Scans digits s (.error (.tooDeep container))
  | longInteger {n} (hlimit : digits.any (· < n) = true) (hrun : HasDigits s n) :
      Scans digits s (.error (.longInteger n))

namespace Scans

variable {α β : Type} {digits : Option Nat} {s t : List Char}

theorem mono {x : Except Stop (α × List Char)} (h : Scans digits s x) (hst : s <:+ t) :
    Scans digits t x := by
  cases h with
  | ok h => exact .ok (h.trans hst)
  | malformed flaw left => exact .malformed flaw left
  | tooDeep container => exact .tooDeep container
  | longInteger hlimit hrun => exact .longInteger hlimit (hrun.mono hst.isInfix)

theorem bind {x : Except Stop (α × List Char)} {f : α × List Char → Except Stop (β × List Char)}
    (h : Scans digits s x) (hf : ∀ a r, r <:+ s → Scans digits r (f (a, r))) :
    Scans digits s (x >>= f) := by
  cases h with
  | ok h => exact (hf _ _ h).mono h
  | malformed flaw left => exact .malformed flaw left
  | tooDeep container => exact .tooDeep container
  | longInteger hlimit hrun => exact .longInteger hlimit hrun

end Scans

theorem skipSpace_suffix (s : List Char) : skipSpace s <:+ s :=
  List.dropWhile_suffix _

/-! ## Texts and scalars -/

section Scalars

variable {limits : Limits} {negative : Bool}

theorem suffix_of_readText {opening s cs r : List Char} {skip : Nat}
    (h : readText opening skip s = .ok (cs, r)) : r <:+ s := by
  induction s generalizing skip cs r with
  | nil => cases h
  | cons c s ih =>
      have hcons : s <:+ c :: s := List.suffix_cons c s
      cases skip with
      | succ skip => exact (ih h).trans hcons
      | zero =>
          rw [readText] at h
          split at h
          next => cases h; exact hcons
          next =>
              split at h
              next =>
                  obtain ⟨e, -, h⟩ := exists_of_bind_eq_ok h
                  obtain ⟨⟨cs, left⟩, hrest, h⟩ := exists_of_bind_eq_ok h
                  cases h
                  exact (ih hrest).trans hcons
              next =>
                  split at h
                  next => cases h
                  next =>
                      obtain ⟨⟨cs, left⟩, hrest, h⟩ := exists_of_bind_eq_ok h
                      cases h
                      exact (ih hrest).trans hcons

theorem scans_readText {digits : Option Nat} (opening s : List Char) :
    Scans digits s (readText opening 0 s) := by
  rcases unlimited_readText opening 0 s with ⟨flaw, left, h⟩ | ⟨⟨cs, r⟩, h⟩
  · rw [h]
    exact .malformed flaw left
  · rw [h]
    exact .ok (suffix_of_readText h)

theorem scans_readNumberAfter {whole s t : List Char} (hs : s <:+ t) (hwhole : whole <:+: t)
    (hdigits : ∀ c ∈ whole, c.isDigit = true) :
    Scans limits.digits t (readNumberAfter limits negative whole s) := by
  cases hread : readNumberAfter limits negative whole s with
  | ok p => exact .ok ((suffix_of_readNumberAfter hread).trans hs)
  | error e =>
      unfold readNumberAfter at hread
      dsimp only at hread
      split at hread
      · cases hread
      · split at hread
        · split at hread
          next hlimit =>
              cases hread
              exact .longInteger hlimit ⟨whole, hwhole, rfl, hdigits⟩
          next => cases hread
        · cases hread

theorem scans_readDigits {whole : List Char} (s : List Char) :
    Scans limits.digits s (readDigits limits negative whole s) := by
  unfold readDigits
  split
  next r =>
      exact scans_readNumberAfter (List.suffix_cons _ _) (List.prefix_append ['0'] r).isInfix
        (List.forall_mem_singleton.2 rfl)
  next =>
      split
      next =>
          exact scans_readNumberAfter (List.dropWhile_suffix _) (List.takeWhile_prefix _).isInfix
            fun c hc => List.mem_takeWhile_imp hc
      next => exact .malformed _ _
  next => exact .malformed _ _

theorem scans_readScalar (s : List Char) : Scans limits.digits s (readScalar limits s) := by
  unfold readScalar
  split
  case h_1 => exact .ok (List.suffix_append "null".toList _)
  case h_2 => exact .ok (List.suffix_append "true".toList _)
  case h_3 => exact .ok (List.suffix_append "false".toList _)
  case h_4 => exact .ok (List.suffix_append "NaN".toList _)
  case h_5 => exact .ok (List.suffix_append "Infinity".toList _)
  case h_6 => exact .ok (List.suffix_append "-Infinity".toList _)
  case h_7 => exact (scans_readDigits _).mono (List.suffix_cons _ _)
  case h_8 => exact scans_readDigits _

end Scalars

/-! ## Values -/

section Readers

variable {α : Type} {digits : Option Nat} {limits : Limits} {fuel : Nat}

theorem scans_readRest {close : Char} {item : α}
    {more : List Char → Except Stop (List α × List Char)} (h : ∀ t, Scans digits t (more t))
    (s : List Char) : Scans digits s (readRest close more item s) := by
  unfold readRest
  have hskip := skipSpace_suffix s
  split
  next => exact .malformed _ _
  next c r heq =>
      have hr : r <:+ s := (List.suffix_cons c r).trans (heq ▸ hskip)
      split
      · exact .ok hr
      split
      · refine .mono (.bind (h (skipSpace r)) fun items t ht => .ok (List.suffix_refl t)) ?_
        exact (skipSpace_suffix r).trans hr
      · exact .malformed _ _

theorem scans_readOpened {close : Char} {value : List α → Json}
    {more : List Char → Except Stop (List α × List Char)} (h : ∀ t, Scans digits t (more t))
    (s : List Char) : Scans digits s (readOpened close more value s) := by
  unfold readOpened
  split
  · exact .ok ((List.tail_suffix _).trans (skipSpace_suffix s))
  · exact .mono (.bind (h (skipSpace s)) fun items t ht => .ok (List.suffix_refl t))
      (skipSpace_suffix s)

theorem scans_readField (hvalue : ∀ s, Scans digits s (readValue limits fuel s))
    (hfields : ∀ s, Scans digits s (readFields limits fuel s)) (key s : List Char) :
    Scans digits s (readField limits fuel key s) := by
  unfold readField
  have hskip := skipSpace_suffix s
  split
  next => exact .malformed _ _
  next c r heq =>
      have hr : r <:+ s := (List.suffix_cons c r).trans (heq ▸ hskip)
      split
      · refine .mono (.bind (hvalue (skipSpace r)) fun value t ht => ?_)
          ((skipSpace_suffix r).trans hr)
        exact scans_readRest hfields t
      · exact .malformed _ _

theorem scans_readItems_succ (hvalue : ∀ s, Scans digits s (readValue limits fuel s))
    (hitems : ∀ s, Scans digits s (readItems limits fuel s)) (s : List Char) :
    Scans digits s (readItems limits (fuel + 1) s) := by
  rw [readItems_succ]
  exact (hvalue s).bind fun item r hr => scans_readRest hitems r

theorem scans_readFields_succ (hvalue : ∀ s, Scans digits s (readValue limits fuel s))
    (hfields : ∀ s, Scans digits s (readFields limits fuel s)) (s : List Char) :
    Scans digits s (readFields limits (fuel + 1) s) := by
  by_cases hkey : ∃ r, s = '"' :: r
  · obtain ⟨r, rfl⟩ := hkey
    rw [readFields_succ]
    refine .mono (.bind (scans_readText _ r) fun key t ht => ?_) (List.suffix_cons _ r)
    exact scans_readField hvalue hfields key t
  · rw [readFields.eq_def]
    dsimp only
    split
    next r => exact absurd ⟨r, rfl⟩ hkey
    next => exact .malformed _ _

/-- The opening of a container costs a level of the depth, and none of the digits. -/
theorem scans_inside {container : Container} {s : List Char}
    {f : Limits → Except Stop (Json × List Char)}
    (h : ∀ inner : Limits, inner.digits = limits.digits → Scans limits.digits s (f inner)) :
    Scans limits.digits s (limits.inside container >>= f) := by
  cases hinside : limits.inside container with
  | error e =>
      unfold Limits.inside at hinside
      split at hinside
      · cases hinside
        exact .tooDeep container
      · cases hinside
  | ok inner => exact h inner (Limits.digits_of_inner? (Limits.inside_eq_ok_iff.1 hinside))

theorem scans_readValue_succ
    (hitems : ∀ inner : Limits, inner.digits = limits.digits →
      ∀ s, Scans limits.digits s (readItems inner fuel s))
    (hfields : ∀ inner : Limits, inner.digits = limits.digits →
      ∀ s, Scans limits.digits s (readFields inner fuel s)) (s : List Char) :
    Scans limits.digits s (readValue limits (fuel + 1) s) := by
  rcases s with _ | ⟨c, s⟩
  · exact scans_readScalar []
  have hcons : s <:+ c :: s := List.suffix_cons c s
  by_cases htext : c = '"'
  · subst htext
    rw [readValue]
    exact .mono (.bind (scans_readText _ s) fun cs r hr => .ok (List.suffix_refl r)) hcons
  by_cases harr : c = '['
  · subst harr
    rw [readValue_array]
    exact scans_inside fun inner hinner => (scans_readOpened (hitems inner hinner) s).mono hcons
  by_cases hobj : c = '\x7b'
  · subst hobj
    rw [readValue_object]
    exact scans_inside fun inner hinner => (scans_readOpened (hfields inner hinner) s).mono hcons
  · rw [readValue_of_scalar htext harr hobj]
    exact scans_readScalar (c :: s)

theorem scans_readers (fuel : Nat) : ∀ (limits : Limits) (s : List Char),
    Scans limits.digits s (readValue limits fuel s) ∧
      Scans limits.digits s (readItems limits fuel s) ∧
      Scans limits.digits s (readFields limits fuel s) := by
  induction fuel with
  | zero =>
      intro limits s
      rw [readValue, readItems, readFields]
      exact ⟨.malformed _ _, .malformed _ _, .malformed _ _⟩
  | succ fuel ih =>
      intro limits s
      refine ⟨?_, ?_, ?_⟩
      · exact scans_readValue_succ (fun inner hinner s => hinner ▸ (ih inner s).2.1)
          (fun inner hinner s => hinner ▸ (ih inner s).2.2) s
      · exact scans_readItems_succ (fun s => (ih limits s).1) (fun s => (ih limits s).2.1) s
      · exact scans_readFields_succ (fun s => (ih limits s).1) (fun s => (ih limits s).2.2) s

end Readers

/-! ## Whole texts -/

/-- A text at whose integer the reader stops has that many digits in a row, more than the limit
allows. -/
theorem readWhole_longInteger {limits : Limits} {s : List Char} {n : Nat}
    (h : readWhole limits s = .error (.longInteger n)) :
    limits.digits.any (· < n) = true ∧ HasDigits s n := by
  have hscans := (scans_readers (2 * s.length + 2) limits (skipSpace s)).1
  unfold readWhole at h
  generalize readValue limits (2 * s.length + 2) (skipSpace s) = x at h hscans
  cases hscans with
  | @ok v r hr =>
      dsimp only at h
      split at h <;> cases h
  | malformed flaw left => cases h
  | tooDeep container => cases h
  | longInteger hlimit hrun =>
      cases h
      exact ⟨hlimit, hrun.mono (skipSpace_suffix s).isInfix⟩

theorem read_longInteger [OuterDepth] {text : String} {n : Nat}
    (h : read text = .error (.longInteger n)) : Text.maxDigits < n ∧ HasDigits text.toList n := by
  rcases read_eq_readWhole text with ⟨⟨flaw, place, hmalformed⟩, -⟩ | hread
  · cases h.symm.trans hmalformed
  · obtain ⟨hlimit, hrun⟩ := readWhole_longInteger (hread.symm.trans h)
    exact ⟨of_decide_eq_true hlimit, hrun⟩

/-! ## Reaching the limit -/

/-- A run of more digits than the limit allows, which does not begin with a zero and behind which
no number goes on, stops the reader. -/
theorem readScalar_longInteger {limits : Limits} {run rest : List Char}
    (hdigits : ∀ c ∈ run, c.isDigit = true) (hzero : run.head? ≠ some '0')
    (hlong : limits.digits.any (· < run.length) = true) (hrest : EndsValue rest) :
    readScalar limits (run ++ rest) = .error (.longInteger run.length) := by
  have hspan := takeWhile_isDigit_append hdigits hrest
  have hnumber : readNumberAfter limits false run rest = .error (.longInteger run.length) := by
    rw [readNumberAfter, fraction_of_endsValue hrest]
    simp only [exponent?_of_endsValue hrest, hlong, List.isEmpty_nil, if_true]
  cases run with
  | nil => cases hlimit : limits.digits <;> simp [hlimit] at hlong
  | cons c r =>
      have hc : c.isDigit = true := hdigits c List.mem_cons_self
      have hne : c ≠ '0' := fun heq => hzero (congrArg some heq)
      rw [List.cons_append] at hspan ⊢
      rw [readScalar_of_isDigit hc, readDigits, if_pos hc, hspan.1, hspan.2]
      · exact hnumber
      · exact hne

/-- Also where such a run stands as a value, with space in front of it. -/
theorem readValue_longInteger {limits : Limits} {gap run rest : List Char} (fuel : Nat)
    (hgap : IsGap gap) (hdigits : ∀ c ∈ run, c.isDigit = true) (hzero : run.head? ≠ some '0')
    (hlong : limits.digits.any (· < run.length) = true) (hrest : EndsValue rest) :
    readValue limits (fuel + 1) (skipSpace (gap ++ (run ++ rest))) =
      .error (.longInteger run.length) := by
  have hscalar := readScalar_longInteger hdigits hzero hlong hrest
  cases run with
  | nil => cases hlimit : limits.digits <;> simp [hlimit] at hlong
  | cons c r =>
      have hc : c.isDigit = true := hdigits c List.mem_cons_self
      have hne {d : Char} (hd : d.isDigit = false) : c ≠ d := by
        rintro rfl
        cases hd.symm.trans hc
      have hbare : BeginsBare (c :: r ++ rest) :=
        ⟨c, r ++ rest, rfl, isSpace_of_opensValue (by rw [opensValue, hc, Bool.true_or])⟩
      rw [skipSpace_append hgap, skipSpace_of_bare hbare, List.cons_append,
        readValue_of_scalar (hne (by decide)) (hne (by decide)) (hne (by decide))]
      exact hscalar

/-- An object with such a run as its one field is not read. -/
theorem read_field_longInteger [OuterDepth] {key : String} {name run : List Char}
    (hroom : outerLimits.Allows 1) (hname : SpellsKey key name)
    (hdigits : ∀ c ∈ run, c.isDigit = true) (hzero : run.head? ≠ some '0')
    (hlong : Text.maxDigits < run.length) :
    read (String.ofList ('\x7b' :: (name ++ (run ++ ['\x7d'])))) =
      .error (.longInteger run.length) := by
  obtain ⟨t, before, after, htext, hbefore, hafter, rfl⟩ := hname
  obtain ⟨inner, hinside, -⟩ :=
    Limits.exists_inside hroom allowsDigit_outerLimits .object
  have hlimit : inner.digits.any (· < run.length) = true := by
    rw [Limits.digits_of_inside hinside]
    exact decide_eq_true hlong
  have hends : EndsValue ['\x7d'] := by
    rintro c ⟨⟩
    exact .inr (.inr (.inr rfl))
  have hfield (fuel : Nat) : readField inner (fuel + 1) key.toList
      (before ++ ':' :: (after ++ (run ++ ['\x7d']))) = .error (.longInteger run.length) := by
    rw [readField, skipSpace_append hbefore, skipSpace_of_bare ⟨':', _, rfl, rfl⟩]
    dsimp only
    rw [if_pos rfl, readValue_longInteger fuel hafter hdigits hzero hlimit hends]
    rfl
  have hobject (fuel : Nat) : readValue outerLimits (fuel + 3) ('\x7b' :: '"' :: (t ++ '"' ::
      (before ++ ':' :: (after ++ (run ++ ['\x7d']))))) = .error (.longInteger run.length) := by
    rw [readValue_object, hinside]
    dsimp only [bind, Except.bind]
    rw [readOpened, skipSpace_of_bare ⟨'"', _, rfl, rfl⟩, if_neg (by simp), readFields_succ,
      readText_of_spellsText htext]
    change (readField inner (fuel + 1) key.toList _ >>= _) = _
    rw [hfield]
    rfl
  rw [read, String.toList_ofList]
  simp only [List.cons_append, List.append_assoc]
  change readWhole outerLimits _ = _
  rw [readWhole, skipSpace_of_bare ⟨'\x7b', _, rfl, rfl⟩]
  obtain ⟨fuel, hfuel⟩ : ∃ fuel, 2 * ('\x7b' :: '"' :: (t ++ '"' ::
      (before ++ ':' :: (after ++ (run ++ ['\x7d']))))).length + 2 = fuel + 3 :=
    Nat.exists_eq_add_of_le' (by rw [List.length_cons]; omega)
  rw [hfuel, hobject]

end RequestAtlas.Json
