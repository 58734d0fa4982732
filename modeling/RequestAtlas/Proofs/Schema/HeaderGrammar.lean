import RequestAtlas.Proofs.Schema.Header

/-!
# Which header a line is

A line can be a header in more than one way. In `Table a{b {` the name may be `a`, with
the rest of the line from the first brace on, or `a{b`, with the second brace alone. The
reader weighs no readings against each other: it ends the name at the first brace behind
its first character. This file says which of them it gives. It finds one just if there is
one, and the one that it finds has the shortest name (`readHeader?_shortest`).

The same reading is found by a search that tries short names before long ones and goes
back whenever the line does not end as it must. All that such a search comes upon is
`headerReadings`, in its order. Blanks leave it no choice, because what has to follow
them begins with none (`flatMap_cuts_isBlank`). So only the name is left to choose, the
readings come in the order of their names (`pairwise_headerReadings`), and the first of
them is the shortest.
-/

namespace RequestAtlas.Schema

open Text

/-! ## The readings of a line -/

/-- Whether a line can be read as a header with the given name and rest. The name is any
word, whatever braces it has. -/
def IsHeader (line name rest : List Char) : Prop :=
  IsWord name ∧ IsRest rest ∧ ∃ w v, w ≠ [] ∧ (∀ c ∈ w, isBlank c = true) ∧
    (∀ c ∈ v, isBlank c = true) ∧ line = headerWord ++ (w ++ (name ++ (v ++ rest)))

variable {line name rest : List Char}

/-- Blanks that are followed by a name are all the blanks at the place where they stand. -/
theorem IsHeader.exists_trimStart_eq {s : List Char} (h : IsHeader (headerWord ++ s) name rest) :
    ∃ v, (∀ c ∈ v, isBlank c = true) ∧ trimStart s = name ++ (v ++ rest) := by
  obtain ⟨hname, -, w, v, -, hw, hv, hline⟩ := h
  obtain rfl := List.append_cancel_left hline
  exact ⟨v, hv, by rw [trimStart_append_of_blank _ hw, hname.trimStart_append]⟩

/-- Two readings of a line leave the same text behind the word and its blanks. -/
theorem IsHeader.exists_append_eq {name' rest' : List Char} (h : IsHeader line name rest)
    (h' : IsHeader line name' rest') :
    ∃ v v', (∀ c ∈ v, isBlank c = true) ∧ (∀ c ∈ v', isBlank c = true) ∧
      name ++ (v ++ rest) = name' ++ (v' ++ rest') := by
  obtain ⟨s, rfl⟩ : ∃ s, line = headerWord ++ s := by
    obtain ⟨-, -, w, v, -, -, -, hline⟩ := h
    exact ⟨_, hline⟩
  obtain ⟨v, hv, hs⟩ := h.exists_trimStart_eq
  obtain ⟨v', hv', hs'⟩ := h'.exists_trimStart_eq
  exact ⟨v, v', hv, hv', hs.symm.trans hs'⟩

/-- The length of the name decides the reading. -/
theorem IsHeader.eq_of_length {name' rest' : List Char} (h : IsHeader line name rest)
    (h' : IsHeader line name' rest') (hlength : name.length = name'.length) :
    name = name' ∧ rest = rest' := by
  obtain ⟨v, v', hv, hv', heq⟩ := h.exists_append_eq h'
  obtain ⟨hname, htail⟩ := List.append_inj heq hlength
  refine ⟨hname, ?_⟩
  calc rest = trimStart (v ++ rest) := by rw [trimStart_append_of_blank _ hv, h.2.1.trimStart_eq]
    _ = trimStart (v' ++ rest') := by rw [htail]
    _ = rest' := by rw [trimStart_append_of_blank _ hv', h'.2.1.trimStart_eq]

/-! ## The reading that the reader gives -/

theorem isHeader_of_readHeader? (h : readHeader? line = some (name, rest)) :
    IsHeader line name rest := by
  obtain ⟨hname, hline⟩ := readHeader?_eq_some_iff.1 h
  exact ⟨hname.isWord, hline⟩

/-- A name that is cut behind its first character at a brace is still a name, and what was
cut off goes to the rest. -/
theorem IsHeader.exists_readHeader? (h : IsHeader line name rest) :
    ∃ name' rest', readHeader? line = some (name', rest') := by
  obtain ⟨hname, hrest, w, v, hne, hw, hv, rfl⟩ := h
  obtain ⟨c, r, rfl, -⟩ := hname.exists_cons
  by_cases hbrace : '\x7b' ∈ r
  · obtain ⟨before, behind, rfl, hbefore⟩ := List.eq_append_cons_of_mem hbrace
    have hshort : IsName (c :: before) := by
      refine ⟨⟨List.cons_ne_nil c before, fun d hd => hname.2 d ?_⟩, hbefore⟩
      rw [← List.cons_append]
      exact List.mem_append_left _ hd
    refine ⟨c :: before, '\x7b' :: (behind ++ (v ++ rest)), readHeader?_eq_some_iff.2
      ⟨hshort, .inr ⟨_, rfl⟩, w, [], hne, hw, by simp, ?_⟩⟩
    simp
  · exact ⟨c :: r, rest, readHeader?_eq_some_iff.2
      ⟨⟨hname, hbrace⟩, hrest, w, v, hne, hw, hv, rfl⟩⟩

/-- A shorter name would end inside the one that is read, where neither a blank nor a brace
stands behind it. -/
theorem length_le_of_readHeader? {name' rest' : List Char}
    (h : readHeader? line = some (name, rest)) (h' : IsHeader line name' rest') :
    name.length ≤ name'.length := by
  by_contra hlt
  obtain ⟨v, v', -, hv', heq⟩ := (isHeader_of_readHeader? h).exists_append_eq h'
  obtain ⟨more, rfl⟩ : name' <+: name := by
    refine List.prefix_of_prefix_length_le ?_ (List.prefix_append name (v ++ rest)) (by omega)
    rw [heq]
    exact List.prefix_append _ _
  obtain ⟨hname, -⟩ := readHeader?_eq_some_iff.1 h
  obtain ⟨c, r, rfl, -⟩ := h'.1.exists_cons
  obtain ⟨d, more, rfl⟩ : ∃ d t, more = d :: t := by
    refine List.exists_cons_of_ne_nil ?_
    rintro rfl
    simp at hlt
  -- `d` stands in the name that is read, and right behind the shorter one
  have hcontinues : continuesName d = true := by
    refine continuesName_iff.2 ⟨hname.isWord.2 d (by simp), ?_⟩
    rintro rfl
    exact hname.brace (by simp)
  have hbehind : d :: more ++ (v ++ rest) = v' ++ rest' := by
    rw [List.append_assoc] at heq
    exact List.append_cancel_left heq
  have hstops : continuesName d = false := by
    refine not_continuesName_of_mem_head? hv' h'.2.1 d ?_
    rw [← hbehind]
    rfl
  rw [hcontinues] at hstops
  cases hstops

/-- What the reader gives is the reading with the shortest name. -/
theorem readHeader?_eq_some_iff_shortest : readHeader? line = some (name, rest) ↔
    IsHeader line name rest ∧
      ∀ name' rest', IsHeader line name' rest' → name.length ≤ name'.length := by
  constructor
  · exact fun h => ⟨isHeader_of_readHeader? h, fun _ _ h' => length_le_of_readHeader? h h'⟩
  · rintro ⟨hheader, hshortest⟩
    obtain ⟨name', rest', h⟩ := hheader.exists_readHeader?
    have hheader' : IsHeader line name' rest' := isHeader_of_readHeader? h
    have hlength : name.length = name'.length :=
      Nat.le_antisymm (hshortest _ _ hheader') (length_le_of_readHeader? h hheader)
    obtain ⟨rfl, rfl⟩ := hheader.eq_of_length hheader' hlength
    exact h

theorem isSome_readHeader?_iff :
    (readHeader? line).isSome ↔ ∃ name rest, IsHeader line name rest := by
  rw [Option.isSome_iff_exists]
  constructor
  · rintro ⟨⟨name, rest⟩, h⟩
    exact ⟨name, rest, isHeader_of_readHeader? h⟩
  · rintro ⟨name, rest, h⟩
    obtain ⟨name', rest', h'⟩ := h.exists_readHeader?
    exact ⟨_, h'⟩

/-! ## A search for the readings -/

/-- The cuts of a text behind a run of one or more characters of a kind, the shortest run
first. -/
def runs (p : Char → Bool) : List Char → List (List Char × List Char)
  | [] => []
  | c :: r => if p c then ([c], r) :: (runs p r).map fun x => (c :: x.1, x.2) else []

/-- The cuts of a text behind a run of characters of a kind, the empty run first. -/
def cuts (p : Char → Bool) (s : List Char) : List (List Char × List Char) :=
  ([], s) :: runs p s

theorem runs_cons_of_pos {p : Char → Bool} {c : Char} (s : List Char) (hc : p c = true) :
    runs p (c :: s) = (cuts p s).map fun x => (c :: x.1, x.2) := by
  rw [runs, if_pos hc]
  rfl

theorem runs_cons_of_neg {p : Char → Bool} {c : Char} (s : List Char) (hc : p c = false) :
    runs p (c :: s) = [] := by
  rw [runs, if_neg (by simp [hc])]

/-- A rest as a search finds it: absent at the end of the line. -/
def rest? (rest : List Char) : Option (List Char) :=
  if rest.isEmpty then none else some rest

/-- What can be found behind the name and its blanks. A brace has all that follows it for
its rest, and without a brace the line must be at its end. -/
def rests : List Char → List (Option (List Char))
  | '\x7b' :: body => [some ('\x7b' :: body)]
  | [] => [none]
  | _ => []

/-- The names at the start of a text with the rests behind them, in the order of a search
that takes as few characters for the name as it can, and of the blanks as many. -/
def nameReadings (s : List Char) : List (List Char × Option (List Char)) :=
  (runs (!isBlank ·) s).flatMap fun x =>
    (cuts isBlank x.2).reverse.flatMap fun y => (rests y.2).map fun rest => (x.1, rest)

/-- The readings of a line as a header in the order of such a search. -/
def headerReadings (line : List Char) : List (List Char × Option (List Char)) :=
  (afterStart? headerWord line).toList.flatMap fun s =>
    (runs isBlank s).reverse.flatMap fun x => nameReadings x.2

theorem mem_runs_iff {p : Char → Bool} {s run behind : List Char} :
    (run, behind) ∈ runs p s ↔ run ≠ [] ∧ (∀ c ∈ run, p c = true) ∧ s = run ++ behind := by
  induction s generalizing run with
  | nil => simp +contextual [runs]
  | cons c s ih =>
      rw [runs]
      constructor
      · intro h
        split at h
        · next hc =>
            rcases List.mem_cons.1 h with h | h
            · obtain ⟨rfl, rfl⟩ := Prod.mk.inj h
              simp [hc]
            · obtain ⟨⟨run, behind⟩, hmem, heq⟩ := List.mem_map.1 h
              obtain ⟨rfl, rfl⟩ := Prod.mk.inj heq
              obtain ⟨-, hrun, rfl⟩ := ih.1 hmem
              exact ⟨List.cons_ne_nil c _, List.forall_mem_cons.2 ⟨hc, hrun⟩, rfl⟩
        · cases h
      · rintro ⟨hne, hrun, hs⟩
        obtain ⟨d, run, rfl⟩ := List.exists_cons_of_ne_nil hne
        obtain ⟨rfl, rfl⟩ := List.cons.inj hs
        obtain ⟨hc, hrun⟩ := List.forall_mem_cons.1 hrun
        rw [if_pos hc, List.mem_cons, List.mem_map]
        by_cases hempty : run = []
        · exact .inl (by simp [hempty])
        · exact .inr ⟨(run, behind), ih.2 ⟨hempty, hrun, rfl⟩, rfl⟩

theorem mem_cuts_iff {p : Char → Bool} {s run behind : List Char} :
    (run, behind) ∈ cuts p s ↔ (∀ c ∈ run, p c = true) ∧ s = run ++ behind := by
  rw [cuts, List.mem_cons, mem_runs_iff]
  constructor
  · rintro (h | ⟨-, hrun, hs⟩)
    · obtain ⟨rfl, rfl⟩ := Prod.mk.inj h
      simp
    · exact ⟨hrun, hs⟩
  · rintro ⟨hrun, rfl⟩
    by_cases hempty : run = []
    · exact .inl (by rw [hempty]; rfl)
    · exact .inr ⟨hempty, hrun, rfl⟩

theorem pairwise_runs (p : Char → Bool) (s : List Char) :
    (runs p s).Pairwise fun x y => x.1.length < y.1.length := by
  induction s with
  | nil => exact .nil
  | cons c s ih =>
      rw [runs]
      split
      · refine .cons (fun y hy => ?_) (List.pairwise_map.2 (ih.imp Nat.succ_lt_succ))
        obtain ⟨x, hx, rfl⟩ := List.mem_map.1 hy
        obtain ⟨hne, -⟩ := mem_runs_iff.1 hx
        exact Nat.succ_lt_succ (List.length_pos_of_ne_nil hne)
      · exact .nil

theorem mem_rests_iff {s : List Char} {found : Option (List Char)} :
    found ∈ rests s ↔ IsRest s ∧ found = rest? s := by
  rw [rests.eq_def]
  split
  · next body => simp [IsRest, rest?]
  · simp [IsRest, rest?]
  · next hbrace hend =>
      have hrest : ¬ IsRest s := by
        rintro (rfl | ⟨body, rfl⟩)
        · exact hend rfl
        · exact hbrace body rfl
      simp [hrest]

theorem mem_headerReadings_iff {found : Option (List Char)} :
    (name, found) ∈ headerReadings line ↔
      ∃ rest, IsHeader line name rest ∧ found = rest? rest := by
  simp only [headerReadings, nameReadings, List.mem_flatMap, List.mem_reverse, List.mem_map,
    Option.mem_toList, Prod.exists, mem_runs_iff, mem_cuts_iff, mem_rests_iff,
    afterStart?_eq_some_iff]
  constructor
  · rintro ⟨_, rfl, w, _, ⟨hne, hw, rfl⟩, _, _, ⟨hword, hname, rfl⟩, v, rest, ⟨hv, rfl⟩, _,
      ⟨hrest, rfl⟩, heq⟩
    obtain ⟨rfl, rfl⟩ := Prod.mk.inj heq
    exact ⟨rest, ⟨⟨hword, by simpa using hname⟩, hrest, w, v, hne, hw, hv, rfl⟩, rfl⟩
  · rintro ⟨rest, ⟨⟨hword, hname⟩, hrest, w, v, hne, hw, hv, rfl⟩, rfl⟩
    exact ⟨_, rfl, w, _, ⟨hne, hw, rfl⟩, name, _, ⟨hword, by simpa using hname, rfl⟩, v, rest,
      ⟨hv, rfl⟩, _, ⟨hrest, rfl⟩, rfl⟩

/-! ## The order of the readings -/

section
variable {α : Type} {f : List Char → List α}

/-- A search that finds nothing in front of a blank goes on behind all the blanks. -/
theorem flatMap_cuts_isBlank (hf : ∀ c r, isBlank c = true → f (c :: r) = [])
    (s : List Char) :
    ((cuts isBlank s).reverse.flatMap fun x => f x.2) = f (trimStart s) := by
  induction s with
  | nil => simp [cuts, runs, trimStart]
  | cons c s ih =>
      cases hc : isBlank c with
      | false =>
          rw [cuts, runs_cons_of_neg s hc, trimStart_cons_of_not_blank s hc]
          simp
      | true =>
          have hdrop : trimStart (c :: s) = trimStart s :=
            trimStart_append_of_blank (p := [c]) s (by simpa using hc)
          rw [cuts, runs_cons_of_pos s hc, List.reverse_cons, List.flatMap_append,
            ← List.map_reverse, List.flatMap_map, ih, List.flatMap_singleton, hf c s hc,
            List.append_nil, hdrop]

theorem flatMap_runs_isBlank (hf : ∀ c r, isBlank c = true → f (c :: r) = [])
    (c : Char) (s : List Char) :
    ((runs isBlank (c :: s)).reverse.flatMap fun x => f x.2) =
      if isBlank c then f (trimStart s) else [] := by
  split
  · next hc =>
      rw [runs_cons_of_pos s hc, ← List.map_reverse, List.flatMap_map, flatMap_cuts_isBlank hf]
  · next hc =>
      rw [runs_cons_of_neg s (by simpa using hc)]
      rfl

end

theorem rests_of_blank (c : Char) (r : List Char) (hc : isBlank c = true) :
    rests (c :: r) = [] := by
  rw [rests.eq_def]
  split
  · next body heq =>
      obtain ⟨rfl, -⟩ := List.cons.inj heq
      exact absurd hc (by decide)
  · next heq => cases heq
  · rfl

theorem nameReadings_of_blank (c : Char) (r : List Char) (hc : isBlank c = true) :
    nameReadings (c :: r) = [] := by
  rw [nameReadings, runs_cons_of_neg r (by simp [hc])]
  rfl

theorem nameReadings_eq (s : List Char) :
    nameReadings s = (runs (!isBlank ·) s).flatMap fun x =>
      (rests (trimStart x.2)).map fun rest => (x.1, rest) := by
  rw [nameReadings]
  refine List.flatMap_congr fun x _ => ?_
  refine flatMap_cuts_isBlank (f := fun t => (rests t).map fun rest => (x.1, rest)) ?_ x.2
  intro c r hc
  rw [rests_of_blank c r hc]
  rfl

theorem pairwise_rests (R : Option (List Char) → Option (List Char) → Prop) (s : List Char) :
    (rests s).Pairwise R := by
  rw [rests.eq_def]
  split
  · exact List.pairwise_singleton R _
  · exact List.pairwise_singleton R _
  · exact .nil

theorem pairwise_nameReadings (s : List Char) :
    (nameReadings s).Pairwise fun x y => x.1.length < y.1.length := by
  rw [nameReadings_eq, List.pairwise_flatMap]
  refine ⟨fun x _ => List.pairwise_map.2 (pairwise_rests _ _), (pairwise_runs _ s).imp ?_⟩
  intro a b hab x hx y hy
  obtain ⟨_, -, rfl⟩ := List.mem_map.1 hx
  obtain ⟨_, -, rfl⟩ := List.mem_map.1 hy
  exact hab

theorem pairwise_headerReadings (line : List Char) :
    (headerReadings line).Pairwise fun x y => x.1.length < y.1.length := by
  rw [headerReadings]
  cases afterStart? headerWord line with
  | none => exact .nil
  | some s =>
      rw [Option.toList_some, List.flatMap_singleton]
      cases s with
      | nil => exact .nil
      | cons c s =>
          rw [flatMap_runs_isBlank nameReadings_of_blank]
          split
          · exact pairwise_nameReadings _
          · exact .nil

/-- The reader gives the reading that the search comes upon first. -/
theorem head?_headerReadings (line : List Char) :
    (headerReadings line).head? = (readHeader? line).map fun h => (h.1, rest? h.2) := by
  have hpairwise := pairwise_headerReadings line
  cases hreadings : headerReadings line with
  | nil =>
      have hnone : readHeader? line = none := by
        refine Option.eq_none_iff_forall_ne_some.2 fun h hread => ?_
        have hmem := mem_headerReadings_iff.2 ⟨h.2, isHeader_of_readHeader? hread, rfl⟩
        rw [hreadings] at hmem
        cases hmem
      rw [hnone]
      rfl
  | cons first others =>
      obtain ⟨name, found⟩ := first
      obtain ⟨rest, hheader, rfl⟩ : ∃ rest, IsHeader line name rest ∧ found = rest? rest :=
        mem_headerReadings_iff.1 (hreadings ▸ List.mem_cons_self)
      rw [hreadings, List.pairwise_cons] at hpairwise
      -- every other reading comes later in the list, so its name is longer
      have hread : readHeader? line = some (name, rest) := by
        refine readHeader?_eq_some_iff_shortest.2 ⟨hheader, fun name' rest' hheader' => ?_⟩
        have hmem := mem_headerReadings_iff.2 ⟨rest', hheader', rfl⟩
        rw [hreadings, List.mem_cons] at hmem
        rcases hmem with heq | hothers
        · rw [(Prod.mk.inj heq).1]
        · exact Nat.le_of_lt (hpairwise.1 _ hothers)
      rw [hread]
      rfl

/-! ## The law -/

/-- A line is a header just if it has a reading. The reader gives the one with the shortest
name, which has no brace behind its first character. A search of the readings comes upon it
first, and finds its rest absent where it is empty. -/
theorem readHeader?_shortest (line : List Char) :
    ((readHeader? line).isSome ↔ ∃ name rest, IsHeader line name rest) ∧
      (∀ name rest, readHeader? line = some (name, rest) ↔ IsHeader line name rest ∧
        ∀ name' rest', IsHeader line name' rest' → name.length ≤ name'.length) ∧
      (∀ name rest, readHeader? line = some (name, rest) → '\x7b' ∉ name.tail) ∧
      (headerReadings line).head? = (readHeader? line).map fun h => (h.1, rest? h.2) :=
  ⟨isSome_readHeader?_iff, fun _ _ => readHeader?_eq_some_iff_shortest,
    fun _ _ h => (readHeader?_eq_some_iff.1 h).1.brace, head?_headerReadings line⟩

/-- A line with two readings. The brace in first place belongs to the name, and each of the
two behind it may begin the rest. -/
theorem readHeader?_shortest_braces :
    let line := "Table \x7ba\x7b \x7b".toList
    headerReadings line = [(['\x7b', 'a'], some ['\x7b', ' ', '\x7b']),
        (['\x7b', 'a', '\x7b'], some ['\x7b'])] ∧
      readHeader? line = some (['\x7b', 'a'], ['\x7b', ' ', '\x7b']) ∧
      IsHeader line ['\x7b', 'a'] ['\x7b', ' ', '\x7b'] ∧
      (∀ name rest, IsHeader line name rest → 2 ≤ name.length) ∧ '\x7b' ∉ ['a'] := by
  intro line
  have hread : readHeader? line = some (['\x7b', 'a'], ['\x7b', ' ', '\x7b']) := by
    decide +kernel
  obtain ⟨-, hshortest, hbrace, -⟩ := readHeader?_shortest line
  obtain ⟨hheader, hleast⟩ := (hshortest _ _).1 hread
  exact ⟨by decide +kernel, hread, hheader, hleast, hbrace _ _ hread⟩

end RequestAtlas.Schema
