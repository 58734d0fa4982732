import RequestAtlas.Proofs.Json.Blanks

/-!
# Reading a trimmed text

A text that can be read has nothing but space around its value. A trim drops more than that,
but a text with any other blank around its value is malformed. So a text that is not
malformed is read the same when it is trimmed, down to the limit that it may run into
(`read_trimString`).

The comparison of `Repeats` is carried from names, numbers and texts to values here. The
readers call each other and each runs on fuel; the reader of the longer text has more of it,
and the other enough for the text that it has. So the induction is on the fuel of the first,
and the bound on what is left pays for the fuel of the second (`repeats_readers`).
-/

namespace RequestAtlas.Json

open Text

/-! ## Where no value begins -/

/-- Whether a reader takes a character for the begin of a value. -/
def startsValue (c : Char) : Bool :=
  opensValue c || c == 'N' || c == 'I'

theorem startsValue_of_isBlank {c : Char} (h : isBlank c = true) : startsValue c = false := by
  have hdigit : c.isDigit = false := isDigit_of_isBlank h
  rw [Bool.eq_false_iff]
  intro hstarts
  simp only [startsValue, opensValue, hdigit, Bool.false_or, List.contains_eq_mem,
    Bool.or_eq_true, decide_eq_true_eq, List.mem_cons, List.not_mem_nil, or_false,
    beq_iff_eq] at hstarts
  rcases hstarts with ((rfl | rfl | rfl | rfl | rfl | rfl | rfl) | rfl) | rfl <;> cases h

theorem startsValue_of_blank {s : List Char} (hs : ∀ c ∈ s, isBlank c = true) :
    ∀ c ∈ s.head?, startsValue c = false := fun c hc =>
  startsValue_of_isBlank (hs c (List.mem_of_mem_head? hc))

section Flaws

variable {limits : Limits} {fuel : Nat} {s : List Char}

theorem flawed_readValue (h : ∀ c ∈ s.head?, startsValue c = false) :
    Flawed (readValue limits fuel s) := by
  cases fuel with
  | zero => exact ⟨_, _, rfl⟩
  | succ fuel =>
      have hne {c d : Char} {r : List Char} (hs : s = c :: r) (hd : startsValue d = true) :
          d ≠ c := by
        rintro rfl
        rw [h d (by rw [hs]; rfl)] at hd
        cases hd
      have hdigits : Flawed (readDigits limits false s s) := by
        refine ⟨.expectedValue, s, readDigits_of_not_isDigit fun c hc => ?_⟩
        have hstarts := h c hc
        simp only [startsValue, opensValue, Bool.or_eq_false_iff] at hstarts
        exact hstarts.1.1.1
      unfold readValue
      split
      next => exact absurd rfl (hne rfl (by decide))
      next => exact absurd rfl (hne rfl (by decide))
      next => exact absurd rfl (hne rfl (by decide))
      next =>
          unfold readScalar
          split
          case h_8 => exact hdigits
          all_goals exact absurd rfl (hne rfl (by decide))

theorem flawed_readItems (h : ∀ c ∈ s.head?, startsValue c = false) :
    Flawed (readItems limits fuel s) := by
  cases fuel with
  | zero => exact ⟨_, _, rfl⟩
  | succ fuel =>
      rw [readItems]
      exact (flawed_readValue h).bind _

theorem flawed_readFields (h : ∀ c ∈ s.head?, startsValue c = false) :
    Flawed (readFields limits fuel s) := by
  cases fuel with
  | zero => exact ⟨_, _, rfl⟩
  | succ fuel =>
      unfold readFields
      split
      next => exact absurd (h '"' rfl) (by decide)
      next => exact ⟨_, _, rfl⟩

end Flaws

/-! ## The parts of a container -/

/-- What stands behind an item: the closing bracket, or a comma and more items. -/
def readRest {α : Type} (close : Char) (more : List Char → Except Stop (List α × List Char))
    (item : α) (s : List Char) : Except Stop (List α × List Char) :=
  match skipSpace s with
  | [] => stop .expectedComma []
  | c :: r =>
    if c = close then .ok ([item], r)
    else if c = ',' then do
      let (items, r) ← more (skipSpace r)
      return (item :: items, r)
    else stop .expectedComma (c :: r)

/-- What stands behind an opening bracket: the closing one, or items. -/
def readOpened {α : Type} (close : Char) (more : List Char → Except Stop (List α × List Char))
    (value : List α → Json) (s : List Char) : Except Stop (Json × List Char) :=
  if (skipSpace s).head? = some close then .ok (value [], (skipSpace s).tail)
  else do
    let (items, r) ← more (skipSpace s)
    return (value items, r)

/-- What stands behind a key. -/
def readField (limits : Limits) (fuel : Nat) (key : List Char) (s : List Char) :
    Except Stop (List (String × Json) × List Char) :=
  match skipSpace s with
  | [] => stop .expectedColon []
  | c :: r =>
    if c = ':' then do
      let (value, r) ← readValue limits fuel (skipSpace r)
      readRest '\x7d' (readFields limits fuel) (String.ofList key, value) r
    else stop .expectedColon (c :: r)

section Parts

variable (limits : Limits) (fuel : Nat)

theorem readItems_succ (s : List Char) :
    readItems limits (fuel + 1) s = readValue limits fuel s >>= fun p =>
      readRest ']' (readItems limits fuel) p.1 p.2 := by
  rw [readItems]
  refine congrArg (_ >>= ·) (funext fun p => ?_)
  obtain ⟨item, r⟩ := p
  dsimp only
  unfold readRest
  rcases skipSpace r with _ | ⟨c, t⟩
  · rfl
  by_cases hclose : c = ']'
  · subst hclose
    rfl
  by_cases hcomma : c = ','
  · subst hcomma
    rfl
  have hclose₀ (u : List Char) (heq : c :: t = ']' :: u) : False := hclose (List.cons.inj heq).1
  have hcomma₀ (u : List Char) (heq : c :: t = ',' :: u) : False := hcomma (List.cons.inj heq).1
  simp only [if_neg hclose, if_neg hcomma]

theorem readFields_succ (s : List Char) :
    readFields limits (fuel + 1) ('"' :: s) = readText ('"' :: s) 0 s >>= fun p =>
      readField limits fuel p.1 p.2 := by
  rw [readFields]
  refine congrArg (_ >>= ·) (funext fun p => ?_)
  obtain ⟨key, r⟩ := p
  dsimp only
  unfold readField
  rcases skipSpace r with _ | ⟨c, t⟩
  · rfl
  by_cases hcolon : c = ':'
  · subst hcolon
    dsimp only
    rw [if_pos rfl]
    refine congrArg (_ >>= ·) (funext fun p => ?_)
    obtain ⟨value, r⟩ := p
    dsimp only
    unfold readRest
    rcases skipSpace r with _ | ⟨c, t⟩
    · rfl
    by_cases hclose : c = '\x7d'
    · subst hclose
      rfl
    by_cases hcomma : c = ','
    · subst hcomma
      rfl
    have hclose₀ (u : List Char) (heq : c :: t = '\x7d' :: u) : False :=
      hclose (List.cons.inj heq).1
    have hcomma₀ (u : List Char) (heq : c :: t = ',' :: u) : False :=
      hcomma (List.cons.inj heq).1
    simp only [if_neg hclose, if_neg hcomma]
  · have hcolon₀ (u : List Char) (heq : c :: t = ':' :: u) : False := hcolon (List.cons.inj heq).1
    simp only [if_neg hcolon]

theorem readValue_array (s : List Char) :
    readValue limits (fuel + 1) ('[' :: s) = limits.inside .array >>= fun inner =>
      readOpened ']' (readItems inner fuel) .arr s := by
  rw [readValue]
  refine congrArg (_ >>= ·) (funext fun inner => ?_)
  unfold readOpened
  rcases skipSpace s with _ | ⟨c, t⟩
  · rfl
  by_cases hclose : c = ']'
  · subst hclose
    rfl
  have hclose₀ (u : List Char) (heq : c :: t = ']' :: u) : False := hclose (List.cons.inj heq).1
  simp only [List.head?_cons, Option.some.injEq, if_neg hclose]

theorem readValue_object (s : List Char) :
    readValue limits (fuel + 1) ('\x7b' :: s) = limits.inside .object >>= fun inner =>
      readOpened '\x7d' (readFields inner fuel) (fun pairs => .obj (Fields.ofPairs pairs)) s := by
  rw [readValue]
  refine congrArg (_ >>= ·) (funext fun inner => ?_)
  unfold readOpened
  rcases skipSpace s with _ | ⟨c, t⟩
  · rfl
  by_cases hclose : c = '\x7d'
  · subst hclose
    rfl
  have hclose₀ (u : List Char) (heq : c :: t = '\x7d' :: u) : False := hclose (List.cons.inj heq).1
  simp only [List.head?_cons, Option.some.injEq, if_neg hclose]

end Parts
/-! ## Values -/

section Readers

variable {q : List Char} (hq : ∀ c ∈ q, isBlank c = true)
variable {α : Type} {limits : Limits} {fuel fuel' : Nat}

include hq

/-- Behind space both readers come to the same character, or the one to blanks and the other to
the end. -/
theorem skipSpace_append_blank (s : List Char) :
    (∃ c r, skipSpace s = c :: r ∧ skipSpace (s ++ q) = c :: (r ++ q) ∧ r.length < s.length) ∨
      skipSpace s = [] ∧ ∀ c ∈ skipSpace (s ++ q), isBlank c = true := by
  have happend : skipSpace (s ++ q) =
      if (skipSpace s).isEmpty then skipSpace q else skipSpace s ++ q :=
    List.dropWhile_append
  have hlength : (skipSpace s).length ≤ s.length := (List.dropWhile_suffix _).length_le
  cases hs : skipSpace s with
  | nil =>
      rw [hs] at happend
      refine .inr ⟨rfl, fun c hc => hq c ?_⟩
      rw [happend] at hc
      exact (List.dropWhile_suffix _).subset hc
  | cons c r =>
      rw [hs] at happend hlength
      exact .inl ⟨c, r, rfl, happend, hlength⟩

theorem Repeats.skipSpace {f g : List Char → Except Stop (α × List Char)} {s : List Char}
    (hflawed : ∀ t : List Char, (∀ c ∈ t.head?, startsValue c = false) → Flawed (f t))
    (h : ∀ t : List Char, t.length ≤ s.length → Repeats q t.length (f (t ++ q)) (g t)) :
    Repeats q s.length (f (skipSpace (s ++ q))) (g (skipSpace s)) := by
  rcases skipSpace_append_blank hq s with ⟨c, r, hshort, hlong, hlt⟩ | ⟨-, hblank⟩
  · rw [hshort, hlong]
    exact (h (c :: r) hlt).mono hlt
  · exact .flawed (hflawed _ (startsValue_of_blank hblank))

theorem repeats_readRest {close : Char} {item : α}
    {f g : List Char → Except Stop (List α × List Char)} {s : List Char}
    (hclose : isBlank close = false)
    (hflawed : ∀ t : List Char, (∀ c ∈ t.head?, startsValue c = false) → Flawed (f t))
    (h : ∀ t : List Char, t.length < s.length → Repeats q t.length (f (t ++ q)) (g t)) :
    Repeats q s.length (readRest close f item (s ++ q)) (readRest close g item s) := by
  unfold readRest
  rcases skipSpace_append_blank hq s with ⟨c, r, hshort, hlong, hlt⟩ | ⟨hshort, hblank⟩
  · rw [hshort, hlong]
    dsimp only
    split
    · exact .ok hlt
    split
    · refine .bind (.skipSpace hq hflawed fun t ht => h t (ht.trans_lt hlt)) fun items t ht => ?_
      exact .ok (ht.trans hlt)
    · exact .stop _ _ _
  · rw [hshort]
    split
    · exact .stop _ _ _
    next c r heq =>
      have hc : isBlank c = true := hblank c (by rw [heq]; exact List.mem_cons_self)
      rw [if_neg (ne_of_isBlank hc hclose), if_neg (ne_of_isBlank hc (by decide))]
      exact .stop _ _ _

theorem repeats_readOpened {close : Char} {value : List α → Json}
    {f g : List Char → Except Stop (List α × List Char)} {s : List Char}
    (hclose : isBlank close = false)
    (hflawed : ∀ t : List Char, (∀ c ∈ t.head?, startsValue c = false) → Flawed (f t))
    (h : ∀ t : List Char, t.length ≤ s.length → Repeats q t.length (f (t ++ q)) (g t)) :
    Repeats q s.length (readOpened close f value (s ++ q)) (readOpened close g value s) := by
  unfold readOpened
  rcases skipSpace_append_blank hq s with ⟨c, r, hshort, hlong, hlt⟩ | ⟨hshort, hblank⟩
  · rw [hshort, hlong]
    simp only [List.head?_cons, List.tail_cons, Option.some.injEq]
    split
    · exact .ok hlt
    · exact ((h (c :: r) hlt).mono hlt).bind fun items t ht => .ok ht
  · have hopen : (skipSpace (s ++ q)).head? ≠ some close := fun heq =>
      ne_of_isBlank (hblank close (List.mem_of_mem_head? heq)) hclose rfl
    rw [if_neg hopen]
    exact .flawed ((hflawed _ (startsValue_of_blank hblank)).bind _)

theorem repeats_readItems_succ
    (hvalue : ∀ s : List Char, 2 * s.length + 1 ≤ fuel' →
      Repeats q s.length (readValue limits fuel (s ++ q)) (readValue limits fuel' s))
    (hitems : ∀ s : List Char, 2 * s.length + 2 ≤ fuel' →
      Repeats q s.length (readItems limits fuel (s ++ q)) (readItems limits fuel' s))
    (s : List Char) (hs : 2 * s.length + 1 ≤ fuel') :
    Repeats q s.length (readItems limits (fuel + 1) (s ++ q))
      (readItems limits (fuel' + 1) s) := by
  rw [readItems_succ, readItems_succ]
  refine (hvalue s hs).bind fun item r hr => ?_
  refine .mono (repeats_readRest hq (by decide) (fun _ => flawed_readItems) fun t ht => ?_) hr.le
  exact hitems t (by omega)

theorem repeats_readField
    (hvalue : ∀ s : List Char, 2 * s.length + 1 ≤ fuel' →
      Repeats q s.length (readValue limits fuel (s ++ q)) (readValue limits fuel' s))
    (hfields : ∀ s : List Char, 2 * s.length + 2 ≤ fuel' →
      Repeats q s.length (readFields limits fuel (s ++ q)) (readFields limits fuel' s))
    (key s : List Char) (hs : 2 * s.length + 1 ≤ fuel') :
    Repeats q s.length (readField limits fuel key (s ++ q)) (readField limits fuel' key s) := by
  unfold readField
  rcases skipSpace_append_blank hq s with ⟨c, r, hshort, hlong, hlt⟩ | ⟨hshort, hblank⟩
  · rw [hshort, hlong]
    dsimp only
    split
    · refine .bind (.skipSpace hq (fun _ => flawed_readValue) fun t ht => hvalue t (by omega))
        fun value t ht => ?_
      refine .mono (repeats_readRest hq (by decide) (fun _ => flawed_readFields) fun u hu => ?_)
        (ht.trans hlt).le
      exact hfields u (by omega)
    · exact .stop _ _ _
  · rw [hshort]
    split
    · exact .stop _ _ _
    next c r heq =>
      have hc : isBlank c = true := hblank c (by rw [heq]; exact List.mem_cons_self)
      rw [if_neg (ne_of_isBlank hc (by decide))]
      exact .stop _ _ _

theorem repeats_readFields_succ
    (hvalue : ∀ s : List Char, 2 * s.length + 1 ≤ fuel' →
      Repeats q s.length (readValue limits fuel (s ++ q)) (readValue limits fuel' s))
    (hfields : ∀ s : List Char, 2 * s.length + 2 ≤ fuel' →
      Repeats q s.length (readFields limits fuel (s ++ q)) (readFields limits fuel' s))
    (s : List Char) (hs : 2 * s.length + 1 ≤ fuel') :
    Repeats q s.length (readFields limits (fuel + 1) (s ++ q))
      (readFields limits (fuel' + 1) s) := by
  rcases s with _ | ⟨c, s⟩
  · exact .flawed (flawed_readFields (startsValue_of_blank hq))
  · by_cases hc : c = '"'
    · subst hc
      rw [List.length_cons] at hs ⊢
      rw [List.cons_append, readFields_succ, readFields_succ]
      refine (repeats_readText hq _ _ s).bind fun key r hr => ?_
      exact (repeats_readField hq hvalue hfields key r (by omega)).mono (by omega)
    · rw [List.cons_append, readFields.eq_def]
      dsimp only
      split
      next heq => exact absurd (List.cons.inj heq).1 hc
      next => exact .stop _ _ _

theorem repeats_readValue_succ
    (hitems : ∀ (limits : Limits) (s : List Char), 2 * s.length + 2 ≤ fuel' →
      Repeats q s.length (readItems limits fuel (s ++ q)) (readItems limits fuel' s))
    (hfields : ∀ (limits : Limits) (s : List Char), 2 * s.length + 2 ≤ fuel' →
      Repeats q s.length (readFields limits fuel (s ++ q)) (readFields limits fuel' s))
    (s : List Char) (hs : 2 * s.length ≤ fuel') :
    Repeats q s.length (readValue limits (fuel + 1) (s ++ q))
      (readValue limits (fuel' + 1) s) := by
  rcases s with _ | ⟨c, s⟩
  · exact .flawed (flawed_readValue (startsValue_of_blank hq))
  rw [List.length_cons] at hs
  have hlt : s.length < (c :: s).length := Nat.lt_succ_self _
  rw [List.cons_append]
  by_cases htext : c = '"'
  · subst htext
    rw [readValue, readValue]
    exact (repeats_readText hq _ _ s).bind fun cs r hr => .ok (hr.trans hlt)
  by_cases harr : c = '['
  · subst harr
    rw [readValue_array, readValue_array]
    refine .bind_left _ fun inner => ?_
    refine .mono (repeats_readOpened hq (by decide) (fun _ => flawed_readItems) fun t ht => ?_)
      hlt.le
    exact hitems inner t (by omega)
  by_cases hobj : c = '\x7b'
  · subst hobj
    rw [readValue_object, readValue_object]
    refine .bind_left _ fun inner => ?_
    refine .mono (repeats_readOpened hq (by decide) (fun _ => flawed_readFields) fun t ht => ?_)
      hlt.le
    exact hfields inner t (by omega)
  · rw [readValue_of_scalar htext harr hobj, readValue_of_scalar htext harr hobj]
    exact repeats_readScalar hq (c :: s)

/-- Fuel for the text without the blanks is enough, however much the other reader has. -/
theorem repeats_readers (fuel : Nat) : ∀ (fuel' : Nat) (limits : Limits) (s : List Char),
    (2 * s.length + 1 ≤ fuel' →
      Repeats q s.length (readValue limits fuel (s ++ q)) (readValue limits fuel' s)) ∧
    (2 * s.length + 2 ≤ fuel' →
      Repeats q s.length (readItems limits fuel (s ++ q)) (readItems limits fuel' s)) ∧
    (2 * s.length + 2 ≤ fuel' →
      Repeats q s.length (readFields limits fuel (s ++ q)) (readFields limits fuel' s)) := by
  induction fuel with
  | zero =>
      intro fuel' limits s
      rw [readValue, readItems, readFields]
      exact ⟨fun _ => .stop _ _ _, fun _ => .stop _ _ _, fun _ => .stop _ _ _⟩
  | succ fuel ih =>
      intro fuel' limits s
      cases fuel' with
      | zero =>
          exact ⟨fun h => absurd h (by omega), fun h => absurd h (by omega),
            fun h => absurd h (by omega)⟩
      | succ fuel' =>
          refine ⟨fun h => ?_, fun h => ?_, fun h => ?_⟩
          · exact repeats_readValue_succ hq (fun limits s => (ih fuel' limits s).2.1)
              (fun limits s => (ih fuel' limits s).2.2) s (by omega)
          · exact repeats_readItems_succ hq (fun s => (ih fuel' limits s).1)
              (fun s => (ih fuel' limits s).2.1) s (by omega)
          · exact repeats_readFields_succ hq (fun s => (ih fuel' limits s).1)
              (fun s => (ih fuel' limits s).2.2) s (by omega)

end Readers

/-! ## Whole texts -/

/-- Whether a text turned out to be malformed. -/
def IsMalformed (x : Except ReadError Json) : Prop :=
  ∃ flaw place, x = .error (.malformed flaw place)

theorem isMalformed_readWhole {limits : Limits} {s : List Char}
    (h : ∀ c ∈ (skipSpace s).head?, startsValue c = false) : IsMalformed (readWhole limits s) := by
  have hvalue : Flawed (readValue limits (2 * s.length + 2) (skipSpace s)) := flawed_readValue h
  obtain ⟨flaw, left, hread⟩ := hvalue
  rw [readWhole, hread]
  exact ⟨_, _, rfl⟩

/-- Blanks around a text make it malformed, or nothing of them. -/
theorem readWhole_append_blank (limits : Limits) {p q : List Char}
    (hp : ∀ c ∈ p, isBlank c = true) (hq : ∀ c ∈ q, isBlank c = true) (s : List Char) :
    IsMalformed (readWhole limits (p ++ (s ++ q))) ∨
      readWhole limits (p ++ (s ++ q)) = readWhole limits s := by
  have hskip : skipSpace (p ++ (s ++ q)) =
      if (skipSpace p).isEmpty then skipSpace (s ++ q) else skipSpace p ++ (s ++ q) :=
    List.dropWhile_append
  cases hgap : skipSpace p with
  | cons c r =>
      refine .inl (isMalformed_readWhole fun d hd => startsValue_of_isBlank (hp d ?_))
      rw [hskip, hgap] at hd
      obtain rfl : c = d := Option.some.inj hd
      exact (List.dropWhile_suffix _).subset (hgap ▸ List.mem_cons_self)
  | nil =>
      rw [hgap, List.isEmpty_nil, if_pos rfl] at hskip
      have hvalue : Repeats q s.length
          (readValue limits (2 * (p ++ (s ++ q)).length + 2) (skipSpace (s ++ q)))
          (readValue limits (2 * s.length + 2) (skipSpace s)) :=
        .skipSpace hq (fun _ => flawed_readValue) fun t ht =>
          (repeats_readers hq _ _ limits t).1 (by omega)
      unfold readWhole
      rw [hskip]
      generalize readValue limits (2 * (p ++ (s ++ q)).length + 2) (skipSpace (s ++ q)) = long
        at hvalue ⊢
      generalize readValue limits (2 * s.length + 2) (skipSpace s) = short at hvalue ⊢
      cases hvalue with
      | flawed h =>
          obtain ⟨flaw, left, rfl⟩ := h
          exact .inl ⟨_, _, rfl⟩
      | error e =>
          cases e with
          | malformed flaw left => exact .inl ⟨_, _, rfl⟩
          | longInteger digits => exact .inr rfl
          | tooDeep container => exact .inr rfl
      | @ok v r =>
          dsimp only
          rcases skipSpace_append_blank hq r with ⟨c, t, hshort, hlong, -⟩ | ⟨hshort, -⟩
          · rw [hlong]
            exact .inl ⟨_, _, rfl⟩
          · rw [hshort]
            cases skipSpace (r ++ q) with
            | nil => exact .inr rfl
            | cons c left => exact .inl ⟨_, _, rfl⟩

section

variable [OuterDepth]

/-- A byte order mark at the start is a flaw, also to a reader that does not look for it. -/
theorem read_eq_readWhole (text : String) :
    IsMalformed (read text) ∧ IsMalformed (readWhole outerLimits text.toList) ∨
      read text = readWhole outerLimits text.toList := by
  unfold read
  split
  next heq =>
      rw [heq]
      refine .inl ⟨⟨_, _, rfl⟩, isMalformed_readWhole ?_⟩
      rintro c ⟨⟩
      decide
  next => exact .inr rfl

theorem isMalformed_read {text : String}
    (h : ∀ c ∈ (skipSpace text.toList).head?, startsValue c = false) : IsMalformed (read text) := by
  rcases read_eq_readWhole text with ⟨hmalformed, -⟩ | hread
  · exact hmalformed
  · exact hread ▸ isMalformed_readWhole h

/-- A text that is not malformed is read the same when it is trimmed. -/
theorem read_trimString (text : String) :
    IsMalformed (read text) ∨ read (trimString text) = read text := by
  obtain ⟨p, q, hp, hq, htext⟩ := exists_eq_append_trim text.toList
  have htrim : (trimString text).toList = trim text.toList := String.toList_ofList
  rcases read_eq_readWhole text with ⟨hmalformed, -⟩ | hread
  · exact .inl hmalformed
  have hblanks : IsMalformed (readWhole outerLimits text.toList) ∨
      readWhole outerLimits text.toList = readWhole outerLimits (trim text.toList) := by
    have hwhole := readWhole_append_blank outerLimits hp hq (trim text.toList)
    rwa [← htext] at hwhole
  rcases hblanks with hmalformed | hwhole
  · exact .inl (hread ▸ hmalformed)
  rcases read_eq_readWhole (trimString text) with ⟨-, hmalformed⟩ | htrimmed
  · rw [htrim, ← hwhole, ← hread] at hmalformed
    exact .inl hmalformed
  · exact .inr (by rw [htrimmed, htrim, ← hwhole, hread])

end

end RequestAtlas.Json
