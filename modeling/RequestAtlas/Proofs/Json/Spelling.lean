import RequestAtlas.Decimal.Layout
import RequestAtlas.Json.Reader
import RequestAtlas.Proofs.Json.Exact

/-!
# The texts of a value

A value has many texts: space may stand around its parts, and a character may stand for
itself or be escaped, in more than one way. `Spells` says which texts those are, without a
word on how they are read. Floating-point numbers have no text here, since none tells
them exactly.

Each of the texts is read as the value (`readWhole_of_isDocument`), when it tells the
value within the limits of the reader. The induction follows the value, and says more
than the theorem: the text may stand in front of anything that can follow a value, and
the reader stops right behind it (`readsAs_of_exact`).
-/

namespace RequestAtlas.Json

/-! ## Space -/

/-- Whether a text is nothing but space. -/
def IsGap (s : List Char) : Prop :=
  ∀ c ∈ s, isSpace c = true

/-- Whether a text begins with something, but not with space. -/
def BeginsBare (s : List Char) : Prop :=
  ∃ c r, s = c :: r ∧ isSpace c = false

theorem isGap_nil : IsGap [] :=
  fun _ h => nomatch h

theorem skipSpace_append {gap s : List Char} (hgap : IsGap gap) :
    skipSpace (gap ++ s) = skipSpace s := by
  rw [skipSpace, List.dropWhile_append_of_pos hgap]
  rfl

theorem skipSpace_of_bare {s : List Char} (h : BeginsBare s) : skipSpace s = s := by
  obtain ⟨c, r, rfl, hc⟩ := h
  rw [skipSpace, List.dropWhile_cons_of_neg (by rw [hc]; decide)]

/-! ## The texts -/

/-- The characters that an escape of one character stands for. -/
def escapes : List (Char × Char) :=
  [('"', '"'), ('\\', '\\'), ('/', '/'), ('b', '\x08'), ('f', '\x0C'), ('n', '\n'), ('r', '\r'),
    ('t', '\t')]

/-- Whether four characters are the hexadecimal digits of a number, in either case. -/
structure AreDigits (n : Nat) (a b c d : Char) : Prop where
  first : Text.hexValue? a = some (n / 0x1000)
  second : Text.hexValue? b = some (n / 0x100 % 0x10)
  third : Text.hexValue? c = some (n / 0x10 % 0x10)
  fourth : Text.hexValue? d = some (n % 0x10)

/-- Whether a text says some characters, between the quotes of a document. -/
inductive SpellsText : List Char → List Char → Prop
  | nil : SpellsText [] []
  /-- A character stands for itself, unless it is a quote, a backslash or a control. -/
  | plain {c : Char} {cs s} (quote : c ≠ '"') (slash : c ≠ '\\') (control : ¬c.toNat < 0x20)
      (rest : SpellsText cs s) : SpellsText (c :: cs) (c :: s)
  /-- Some characters have an escape of their own. -/
  | escaped {e c : Char} {cs s} (mem : (e, c) ∈ escapes) (rest : SpellsText cs s) :
      SpellsText (c :: cs) ('\\' :: e :: s)
  /-- A character may be escaped by its number. -/
  | numbered {c : Char} {a₁ a₂ a₃ a₄ cs s} (digits : AreDigits c.toNat a₁ a₂ a₃ a₄)
      (rest : SpellsText cs s) : SpellsText (c :: cs) ('\\' :: 'u' :: a₁ :: a₂ :: a₃ :: a₄ :: s)
  /-- A number of more than four digits is told by two surrogates. -/
  | paired {c : Char} {n m a₁ a₂ a₃ a₄ b₁ b₂ b₃ b₄ cs s} (high : AreDigits n a₁ a₂ a₃ a₄)
      (low : AreDigits m b₁ b₂ b₃ b₄) (opens : 0xD800 ≤ n ∧ n < 0xDC00)
      (closes : 0xDC00 ≤ m ∧ m < 0xE000)
      (number : c.toNat = 0x10000 + (n - 0xD800) * 0x400 + (m - 0xDC00))
      (rest : SpellsText cs s) :
      SpellsText (c :: cs) ('\\' :: 'u' :: a₁ :: a₂ :: a₃ :: a₄ ::
        '\\' :: 'u' :: b₁ :: b₂ :: b₃ :: b₄ :: s)

/-- Whether a text is a key with the colon behind it. -/
def SpellsKey (key : String) (s : List Char) : Prop :=
  ∃ t before after, SpellsText key.toList t ∧ IsGap before ∧ IsGap after ∧
    s = '"' :: (t ++ '"' :: (before ++ ':' :: after))

mutual

/-- Whether a text is one of a value. -/
inductive Spells : Json → List Char → Prop
  | null : Spells .null ['n', 'u', 'l', 'l']
  | true : Spells (.bool .true) ['t', 'r', 'u', 'e']
  | false : Spells (.bool .false) ['f', 'a', 'l', 's', 'e']
  | int (i : Int) : Spells (.int i) (Decimal.intDigits i)
  | str {s t} (body : SpellsText s.toList t) : Spells (.str s) ('"' :: (t ++ ['"']))
  | noItems {gap} (hgap : IsGap gap) : Spells (.arr []) ('[' :: (gap ++ [']']))
  | items {gap items s} (hgap : IsGap gap) (body : SpellsItems items s) :
      Spells (.arr items) ('[' :: (gap ++ s))
  | noFields {gap} (hgap : IsGap gap) : Spells (.obj []) ('\x7b' :: (gap ++ ['\x7d']))
  | fields {gap fields s} (hgap : IsGap gap) (body : SpellsFields fields s) :
      Spells (.obj fields) ('\x7b' :: (gap ++ s))

/-- Whether a text is the items of an array up to its closing bracket. -/
inductive SpellsItems : List Json → List Char → Prop
  | last {item s gap} (head : Spells item s) (hgap : IsGap gap) :
      SpellsItems [item] (s ++ (gap ++ [']']))
  | next {item items s before after t} (head : Spells item s) (hbefore : IsGap before)
      (hafter : IsGap after) (tail : SpellsItems items t) :
      SpellsItems (item :: items) (s ++ (before ++ ',' :: (after ++ t)))

/-- Whether a text is the fields of an object up to its closing brace. -/
inductive SpellsFields : List (String × Json) → List Char → Prop
  | last {key value k s gap} (name : SpellsKey key k) (head : Spells value s)
      (hgap : IsGap gap) : SpellsFields [(key, value)] (k ++ (s ++ (gap ++ ['\x7d'])))
  | next {key value fields k s before after t} (name : SpellsKey key k)
      (head : Spells value s) (hbefore : IsGap before) (hafter : IsGap after)
      (tail : SpellsFields fields t) :
      SpellsFields ((key, value) :: fields) (k ++ (s ++ (before ++ ',' :: (after ++ t))))

end

/-- Whether a text is one of a value with space around it at most. -/
def IsDocument (v : Json) (s : List Char) : Prop :=
  ∃ before body after, IsGap before ∧ Spells v body ∧ IsGap after ∧
    s = before ++ (body ++ after)

/-! ## Reading a text -/

theorem readText_skip (opening : List Char) (skipped s : List Char) :
    readText opening skipped.length (skipped ++ s) = readText opening 0 s := by
  induction skipped with
  | nil => rfl
  | cons c r ih => exact ih

theorem readText_backslash {opening r cs left : List Char} {c : Char} (skipped : List Char)
    (hescape : readEscape opening ('\\' :: (skipped ++ r)) (skipped ++ r) =
      .ok (c, skipped.length))
    (hr : readText opening 0 r = .ok (cs, left)) :
    readText opening 0 ('\\' :: (skipped ++ r)) = .ok (c :: cs, left) := by
  rw [readText, if_neg (by decide), if_pos rfl, hescape]
  change (readText opening skipped.length (skipped ++ r) >>= _) = _
  rw [readText_skip, hr]
  rfl

theorem readText_plain {opening r cs left : List Char} {c : Char} (hquote : c ≠ '"')
    (hslash : c ≠ '\\') (hcontrol : ¬c.toNat < 0x20)
    (hr : readText opening 0 r = .ok (cs, left)) :
    readText opening 0 (c :: r) = .ok (c :: cs, left) := by
  rw [readText, if_neg hquote, if_neg hslash, if_neg hcontrol, hr]
  rfl

theorem codeUnit?_of_areDigits {n : Nat} {a b c d next : Char} {s : List Char}
    (h : AreDigits n a b c d) : codeUnit? (a :: b :: c :: d :: next :: s) = some n := by
  rw [codeUnit?, h.first, h.second, h.third, h.fourth]
  refine congrArg some ?_
  omega

/-- No character is half a surrogate pair. -/
theorem isSurrogate_toNat (c : Char) :
    Text.isHighSurrogate c.toNat = false ∧ Text.isLowSurrogate c.toNat = false := by
  have hvalid : c.toNat < 0xD800 ∨ 0xDFFF < c.toNat ∧ c.toNat < 0x110000 := c.valid
  simp only [Text.isHighSurrogate, Text.isLowSurrogate, Bool.and_eq_false_iff,
    decide_eq_false_iff_not]
  omega

theorem ofCodeUnit_toNat (c : Char) : Text.ofCodeUnit c.toNat = c := by
  rw [Text.ofCodeUnit, (isSurrogate_toNat c).1, (isSurrogate_toNat c).2]
  exact Char.ofNat_toNat c

theorem readEscape_numbered {opening whole r : List Char} {c a₁ a₂ a₃ a₄ : Char}
    (h : AreDigits c.toNat a₁ a₂ a₃ a₄) (hr : r ≠ []) :
    readEscape opening whole ('u' :: a₁ :: a₂ :: a₃ :: a₄ :: r) = .ok (c, 5) := by
  obtain ⟨next, r, rfl⟩ := List.exists_cons_of_ne_nil hr
  rw [readEscape, readUnicodeEscape, List.drop_succ_cons, List.drop_zero,
    codeUnit?_of_areDigits h]
  simp only [(isSurrogate_toNat c).1, ofCodeUnit_toNat]

theorem readEscape_paired {opening whole r : List Char} {n m : Nat}
    {a₁ a₂ a₃ a₄ b₁ b₂ b₃ b₄ : Char} (hhigh : AreDigits n a₁ a₂ a₃ a₄)
    (hlow : AreDigits m b₁ b₂ b₃ b₄) (hopens : Text.isHighSurrogate n = true)
    (hcloses : Text.isLowSurrogate m = true) (hr : r ≠ []) :
    readEscape opening whole ('u' :: a₁ :: a₂ :: a₃ :: a₄ ::
      '\\' :: 'u' :: b₁ :: b₂ :: b₃ :: b₄ :: r) = .ok (Text.ofSurrogates n m, 11) := by
  obtain ⟨next, r, rfl⟩ := List.exists_cons_of_ne_nil hr
  have hlong : ¬(b₁ :: b₂ :: b₃ :: b₄ :: next :: r).length < 5 := by
    simp only [List.length_cons]
    omega
  rw [readEscape, readUnicodeEscape, List.drop_succ_cons, List.drop_zero,
    codeUnit?_of_areDigits hhigh]
  simp only [hopens, List.drop_succ_cons, List.drop_zero, if_neg hlong,
    codeUnit?_of_areDigits hlow, hcloses, if_true]

/-- The characters that a text says are read, up to the quote behind it. -/
theorem readText_of_spellsText {opening cs s : List Char} (h : SpellsText cs s)
    (rest : List Char) : readText opening 0 (s ++ '"' :: rest) = .ok (cs, rest) := by
  have hne (t : List Char) : t ++ '"' :: rest ≠ [] :=
    List.append_ne_nil_of_right_ne_nil t (List.cons_ne_nil _ _)
  induction h with
  | nil => rfl
  | plain quote slash control _ ih => exact readText_plain quote slash control ih
  | escaped mem _ ih =>
      refine readText_backslash [_] ?_ ih
      simp only [escapes, List.mem_cons, Prod.mk.injEq, List.not_mem_nil, or_false] at mem
      rcases mem with ⟨rfl, rfl⟩ | ⟨rfl, rfl⟩ | ⟨rfl, rfl⟩ | ⟨rfl, rfl⟩ | ⟨rfl, rfl⟩ |
        ⟨rfl, rfl⟩ | ⟨rfl, rfl⟩ | ⟨rfl, rfl⟩ <;> rfl
  | numbered digits _ ih =>
      exact readText_backslash ['u', _, _, _, _] (readEscape_numbered digits (hne _)) ih
  | @paired c n m _ _ _ _ _ _ _ _ _ _ high low opens closes number _ ih =>
      have hpair : Text.ofSurrogates n m = c := by
        rw [Text.ofSurrogates, ← number, Char.ofNat_toNat]
      have hopens : Text.isHighSurrogate n = true := by
        simpa [Text.isHighSurrogate] using opens
      have hcloses : Text.isLowSurrogate m = true := by
        simpa [Text.isLowSurrogate] using closes
      rw [← hpair]
      exact readText_backslash ['u', _, _, _, _, '\\', 'u', _, _, _, _]
        (readEscape_paired high low hopens hcloses (hne _)) ih

/-! ## Integers -/

/-- Whether a text may follow a value: it is empty, or begins with space, with a comma
or with a closing bracket. -/
def EndsValue (s : List Char) : Prop :=
  ∀ c ∈ s.head?, isSpace c = true ∨ c = ',' ∨ c = ']' ∨ c = '\x7d'

/-- Behind a value no number goes on. -/
theorem EndsValue.not_number {c : Char} {r : List Char} (h : EndsValue (c :: r)) :
    c.isDigit = false ∧ c ≠ '.' ∧ c ≠ 'e' ∧ c ≠ 'E' := by
  rcases h c rfl with hc | rfl | rfl | rfl
  · simp only [isSpace, Bool.or_eq_true, beq_iff_eq] at hc
    rcases hc with ((rfl | rfl) | rfl) | rfl <;> decide
  all_goals decide

theorem fraction_of_endsValue {s : List Char} (h : EndsValue s) : fraction s = ([], s) := by
  unfold fraction
  split
  next c r => exact absurd rfl h.not_number.2.1
  next => rfl

theorem exponent?_of_endsValue {s : List Char} (h : EndsValue s) : exponent? s = none := by
  cases s with
  | nil => rfl
  | cons c r =>
      have hmark : ¬(c = 'e' ∨ c = 'E') :=
        not_or.2 ⟨h.not_number.2.2.1, h.not_number.2.2.2⟩
      exact if_neg hmark

theorem takeWhile_isDigit_append {ds rest : List Char} (hds : ∀ c ∈ ds, c.isDigit = true)
    (hrest : EndsValue rest) :
    (ds ++ rest).takeWhile Char.isDigit = ds ∧ (ds ++ rest).dropWhile Char.isDigit = rest := by
  rw [List.takeWhile_append_of_pos hds, List.dropWhile_append_of_pos hds]
  cases rest with
  | nil => simp
  | cons c r =>
      have hc : ¬c.isDigit = true := by
        rw [hrest.not_number.1]
        decide
      rw [List.takeWhile_cons_of_neg hc, List.dropWhile_cons_of_neg hc, List.append_nil]
      exact ⟨rfl, rfl⟩

theorem head_toDigits_ne_zero {n : Nat} (h : 0 < n) : (Nat.toDigits 10 n).head? ≠ some '0' := by
  induction n using Nat.strongRecOn with
  | ind n ih =>
      by_cases hlt : n < 10
      · rw [Nat.toDigits_of_lt_base hlt]
        intro heq
        rw [List.head?_cons, Option.some.injEq] at heq
        exact (by decide : ∀ m < 10, 0 < m → Nat.digitChar m ≠ '0') n hlt h heq
      · rw [Nat.toDigits_of_base_le (by decide) (by omega), List.head?_append]
        have hrec := ih (n / 10) (by omega) (by omega)
        cases hhead : (Nat.toDigits 10 (n / 10)).head? with
        | none => exact absurd (List.head?_eq_none_iff.1 hhead) Nat.toDigits_ne_nil
        | some c => rwa [hhead] at hrec

theorem readNumberAfter_digits {limits : Limits} {negative : Bool} {n : Nat} {rest : List Char}
    (hdigits : ∀ d ∈ limits.digits, (Nat.toDigits 10 n).length ≤ d) (hrest : EndsValue rest) :
    readNumberAfter limits negative (Nat.toDigits 10 n) rest =
      .ok (.int (if negative then -(n : Int) else n), rest) := by
  have hshort : limits.digits.any (· < (Nat.toDigits 10 n).length) = false := by
    cases hlimit : limits.digits with
    | none => rfl
    | some d => simpa using hdigits d hlimit
  rw [readNumberAfter, fraction_of_endsValue hrest]
  simp only [exponent?_of_endsValue hrest, hshort, Nat.ofDigitChars_ten_toDigits]
  rfl

theorem exists_toDigits_eq_cons (n : Nat) :
    ∃ c r, Nat.toDigits 10 n = c :: r ∧ c.isDigit = true := by
  obtain ⟨c, r, hcons⟩ := List.exists_cons_of_ne_nil (Nat.toDigits_ne_nil (n := n) (b := 10))
  refine ⟨c, r, hcons, Nat.isDigit_of_mem_toDigits (b := 10) (n := n) (by decide) (by decide) ?_⟩
  rw [hcons]
  exact List.mem_cons_self

/-- The digits of a number are read up to where they end. -/
theorem readDigits_toDigits {limits : Limits} {negative : Bool} {n : Nat}
    {whole rest : List Char} (hdigits : ∀ d ∈ limits.digits, (Nat.toDigits 10 n).length ≤ d)
    (hrest : EndsValue rest) :
    readDigits limits negative whole (Nat.toDigits 10 n ++ rest) =
      .ok (.int (if negative then -(n : Int) else n), rest) := by
  have hall : ∀ c ∈ Nat.toDigits 10 n, c.isDigit = true := fun c hc =>
    Nat.isDigit_of_mem_toDigits (by decide) (by decide) hc
  have hspan := takeWhile_isDigit_append hall hrest
  by_cases hzero : n = 0
  · subst hzero
    exact readNumberAfter_digits hdigits hrest
  · obtain ⟨c, r, hcons, hc⟩ := exists_toDigits_eq_cons n
    have hc0 : c ≠ '0' := by
      have hhead := head_toDigits_ne_zero (Nat.pos_of_ne_zero hzero)
      rw [hcons, List.head?_cons] at hhead
      exact fun heq => hhead (congrArg some heq)
    rw [hcons, List.cons_append] at hspan ⊢
    rw [readDigits, if_pos hc, hspan.1, hspan.2, ← hcons]
    · exact readNumberAfter_digits hdigits hrest
    · exact hc0

theorem readScalar_of_isDigit {limits : Limits} {c : Char} {r : List Char}
    (hc : c.isDigit = true) :
    readScalar limits (c :: r) = readDigits limits false (c :: r) (c :: r) := by
  unfold readScalar
  split
  case h_8 => rfl
  all_goals
    rename_i heq
    cases heq
    cases hc

theorem readScalar_minus {limits : Limits} {c : Char} {r : List Char} (hc : c.isDigit = true) :
    readScalar limits ('-' :: c :: r) = readDigits limits true ('-' :: c :: r) (c :: r) := by
  unfold readScalar
  split
  case h_7 heq => cases heq; rfl
  case h_8 hminus => exact absurd rfl (hminus (c :: r))
  all_goals
    rename_i heq
    cases heq
  cases hc

theorem exists_intDigits_eq_cons (i : Int) :
    ∃ c r, Decimal.intDigits i = c :: r ∧ (c = '-' ∨ c.isDigit = true) := by
  obtain ⟨c, r, hcons, hc⟩ := exists_toDigits_eq_cons i.natAbs
  rw [Decimal.intDigits]
  split
  · exact ⟨_, _, rfl, .inl rfl⟩
  · exact ⟨c, r, hcons, .inr hc⟩

theorem readScalar_intDigits {limits : Limits} {i : Int} {rest : List Char}
    (hdigits : ∀ d ∈ limits.digits, (Nat.toDigits 10 i.natAbs).length ≤ d)
    (hrest : EndsValue rest) :
    readScalar limits (Decimal.intDigits i ++ rest) = .ok (.int i, rest) := by
  obtain ⟨c, r, hcons, hc⟩ := exists_toDigits_eq_cons i.natAbs
  rw [Decimal.intDigits]
  split
  next hneg =>
      rw [hcons, List.cons_append, List.cons_append, readScalar_minus hc, ← List.cons_append,
        ← hcons, readDigits_toDigits hdigits hrest]
      have hvalue : -(i.natAbs : Int) = i := by omega
      simp only [if_true, hvalue]
  next hpos =>
      rw [hcons, List.cons_append, readScalar_of_isDigit hc, ← List.cons_append, ← hcons,
        readDigits_toDigits hdigits hrest]
      have hvalue : (i.natAbs : Int) = i := by omega
      simp only [Bool.false_eq_true, if_false, hvalue]

/-! ## Reading a value -/

theorem readValue_of_scalar {limits : Limits} {fuel : Nat} {c : Char} {r : List Char}
    (htext : c ≠ '"') (harr : c ≠ '[') (hobj : c ≠ '\x7b') :
    readValue limits (fuel + 1) (c :: r) = readScalar limits (c :: r) := by
  rw [readValue]
  · rintro r' ⟨⟩
    exact htext rfl
  · rintro r' ⟨⟩
    exact harr rfl
  · rintro r' ⟨⟩
    exact hobj rfl

/-- Whether a value may begin with a character. -/
def opensValue (c : Char) : Bool :=
  c.isDigit || ['-', '"', '[', '\x7b', 'n', 't', 'f'].contains c

theorem ne_of_opensValue {c d : Char} (hc : opensValue c = true) (hd : opensValue d = false) :
    c ≠ d := by
  rintro rfl
  rw [hd] at hc
  cases hc

theorem isSpace_of_opensValue {c : Char} (hc : opensValue c = true) : isSpace c = false := by
  rw [Bool.eq_false_iff]
  intro hspace
  simp only [isSpace, Bool.or_eq_true, beq_iff_eq] at hspace
  rcases hspace with ((rfl | rfl) | rfl) | rfl <;> cases hc


/-- Whether a text begins as a value may. -/
def BeginsValue (s : List Char) : Prop :=
  ∃ c r, s = c :: r ∧ opensValue c = true

theorem BeginsValue.append {s : List Char} (h : BeginsValue s) (rest : List Char) :
    BeginsValue (s ++ rest) := by
  obtain ⟨c, r, rfl, hc⟩ := h
  exact ⟨c, r ++ rest, rfl, hc⟩

theorem BeginsValue.bare {s : List Char} (h : BeginsValue s) : BeginsBare s := by
  obtain ⟨c, r, rfl, hc⟩ := h
  exact ⟨c, r, rfl, isSpace_of_opensValue hc⟩

theorem beginsValue_of_spells {v : Json} {s : List Char} (h : Spells v s) : BeginsValue s := by
  cases h with
  | int i =>
      obtain ⟨c, r, hcons, hc⟩ := exists_intDigits_eq_cons i
      refine ⟨c, r, hcons, ?_⟩
      rcases hc with rfl | hc
      · rfl
      · rw [opensValue, hc, Bool.true_or]
  | null | true | false | str | noItems | items | noFields | fields => exact ⟨_, _, rfl, rfl⟩

theorem beginsValue_of_spellsItems {items : List Json} {s : List Char}
    (h : SpellsItems items s) : BeginsValue s := by
  cases h with
  | last head _ => exact (beginsValue_of_spells head).append _
  | next head _ _ _ => exact (beginsValue_of_spells head).append _

theorem beginsValue_of_spellsKey {key : String} {s : List Char} (h : SpellsKey key s) :
    BeginsValue s := by
  obtain ⟨t, before, after, -, -, -, rfl⟩ := h
  exact ⟨_, _, rfl, rfl⟩

theorem beginsValue_of_spellsFields {fields : Fields} {s : List Char}
    (h : SpellsFields fields s) : BeginsValue s := by
  cases h with
  | last name _ _ => exact (beginsValue_of_spellsKey name).append _
  | next name _ _ _ _ => exact (beginsValue_of_spellsKey name).append _

theorem skipSpace_gap_append {gap s : List Char} (hgap : IsGap gap) (h : BeginsValue s) :
    skipSpace (gap ++ s) = s := by
  rw [skipSpace_append hgap, skipSpace_of_bare h.bare]

/-- Behind a piece of a container stands a mark, after space perhaps. -/
def IsMark (c : Char) : Prop :=
  c = ',' ∨ c = ']' ∨ c = '\x7d'

theorem endsValue_gap {gap s : List Char} {mark : Char} (hgap : IsGap gap)
    (hmark : IsMark mark) : EndsValue (gap ++ mark :: s) := by
  intro c hc
  cases gap with
  | nil =>
      cases hc
      exact .inr hmark
  | cons space gap =>
      have hspace := hgap space List.mem_cons_self
      cases hc
      exact .inl hspace

theorem skipSpace_gap_mark {gap s : List Char} {mark : Char} (hgap : IsGap gap)
    (hmark : IsMark mark) : skipSpace (gap ++ mark :: s) = mark :: s := by
  rw [skipSpace_append hgap]
  refine skipSpace_of_bare ⟨mark, s, rfl, ?_⟩
  rcases hmark with rfl | rfl | rfl <;> rfl

/-- Whether a value is read from a text, with what stands behind the text left. -/
def ReadsAs (limits : Limits) (v : Json) (s : List Char) : Prop :=
  ∀ fuel rest, s.length ≤ fuel → EndsValue rest →
    readValue limits fuel (s ++ rest) = .ok (v, rest)

section Containers

variable {limits : Limits} {fuel : Nat} {s : List Char}

theorem readItems_of_spells {items : List Json}
    (hread : ∀ item ∈ items, ∀ t, Spells item t → ReadsAs limits item t)
    (h : SpellsItems items s) (hfuel : s.length ≤ fuel) (rest : List Char) :
    readItems limits fuel (s ++ rest) = .ok (items, rest) := by
  -- an item costs one unit of fuel, and the comma or the bracket behind it pays for it
  induction items generalizing s fuel with
  | nil => cases h
  | cons item items ih =>
      rw [List.forall_mem_cons] at hread
      cases h with
      | @last _ s gap head hgap =>
          simp only [List.length_append, List.length_singleton] at hfuel
          obtain ⟨fuel, rfl⟩ := Nat.exists_eq_add_one_of_ne_zero (by omega : fuel ≠ 0)
          have hmark : IsMark ']' := .inr (.inl rfl)
          have hitem := hread.1 s head fuel (gap ++ ']' :: rest) (by omega)
            (endsValue_gap hgap hmark)
          simp only [List.append_assoc, List.singleton_append]
          rw [readItems, hitem]
          simp only [bind, Except.bind, skipSpace_gap_mark hgap hmark]
          rfl
      | @next _ _ s before after t head hbefore hafter tail =>
          simp only [List.length_append, List.length_cons] at hfuel
          obtain ⟨fuel, rfl⟩ := Nat.exists_eq_add_one_of_ne_zero (by omega : fuel ≠ 0)
          have hmark : IsMark ',' := .inl rfl
          have hitem := hread.1 s head fuel (before ++ ',' :: (after ++ (t ++ rest))) (by omega)
            (endsValue_gap hbefore hmark)
          have hskip : skipSpace (after ++ (t ++ rest)) = t ++ rest :=
            skipSpace_gap_append hafter ((beginsValue_of_spellsItems tail).append rest)
          have hitems := ih hread.2 tail (by omega : t.length ≤ fuel)
          simp only [List.append_assoc, List.cons_append]
          rw [readItems, hitem]
          simp only [bind, Except.bind, skipSpace_gap_mark hbefore hmark, hskip, hitems]
          rfl

/-- Behind a key the reader stands in front of the value, and behind the value in front
of what ends the field. -/
theorem readFields_of_spellsKey {key : String} {value : Json} {k t r : List Char}
    (hkey : SpellsKey key k) (ht : BeginsValue t)
    (hvalue : readValue limits fuel t = .ok (value, r)) :
    readFields limits (fuel + 1) (k ++ t) =
      match skipSpace r with
      | '\x7d' :: r => .ok ([(key, value)], r)
      | ',' :: r => do
        let (fields, r) ← readFields limits fuel (skipSpace r)
        return ((key, value) :: fields, r)
      | r => stop .expectedComma r := by
  obtain ⟨body, before, after, hbody, hbefore, hafter, rfl⟩ := hkey
  have hcolon : skipSpace (before ++ ':' :: (after ++ t)) = ':' :: (after ++ t) := by
    rw [skipSpace_append hbefore]
    exact skipSpace_of_bare ⟨':', _, rfl, rfl⟩
  simp only [List.cons_append, List.append_assoc]
  rw [readFields, readText_of_spellsText hbody]
  simp only [bind, Except.bind, hcolon, skipSpace_gap_append hafter ht, hvalue,
    String.ofList_toList]
  rfl

theorem readFields_of_spells {fields : Fields}
    (hread : ∀ field ∈ fields, ∀ t, Spells field.2 t → ReadsAs limits field.2 t)
    (h : SpellsFields fields s) (hfuel : s.length ≤ fuel) (rest : List Char) :
    readFields limits fuel (s ++ rest) = .ok (fields, rest) := by
  induction fields generalizing s fuel with
  | nil => cases h
  | cons field fields ih =>
      rw [List.forall_mem_cons] at hread
      cases h with
      | @last key value k s gap name head hgap =>
          simp only [List.length_append, List.length_singleton] at hfuel
          obtain ⟨fuel, rfl⟩ := Nat.exists_eq_add_one_of_ne_zero (by omega : fuel ≠ 0)
          have hmark : IsMark '\x7d' := .inr (.inr rfl)
          have hvalue := hread.1 s head fuel (gap ++ '\x7d' :: rest) (by omega)
            (endsValue_gap hgap hmark)
          simp only [List.append_assoc, List.singleton_append]
          rw [readFields_of_spellsKey name ((beginsValue_of_spells head).append _) hvalue,
            skipSpace_gap_mark hgap hmark]
          rfl
      | @next key value _ k s before after t name head hbefore hafter tail =>
          simp only [List.length_append, List.length_cons] at hfuel
          obtain ⟨fuel, rfl⟩ := Nat.exists_eq_add_one_of_ne_zero (by omega : fuel ≠ 0)
          have hmark : IsMark ',' := .inl rfl
          have hvalue := hread.1 s head fuel (before ++ ',' :: (after ++ (t ++ rest)))
            (by omega) (endsValue_gap hbefore hmark)
          have hskip : skipSpace (after ++ (t ++ rest)) = t ++ rest :=
            skipSpace_gap_append hafter ((beginsValue_of_spellsFields tail).append rest)
          have hfields := ih hread.2 tail (by omega : t.length ≤ fuel)
          simp only [List.append_assoc, List.cons_append]
          rw [readFields_of_spellsKey name ((beginsValue_of_spells head).append _) hvalue,
            skipSpace_gap_mark hbefore hmark]
          simp only [bind, Except.bind, hskip, hfields]
          rfl

end Containers

theorem readsAs_of_readValue {limits : Limits} {v : Json} {s : List Char} (h : BeginsValue s)
    (hread : ∀ fuel rest, s.length ≤ fuel + 1 → EndsValue rest →
      readValue limits (fuel + 1) (s ++ rest) = .ok (v, rest)) : ReadsAs limits v s := by
  obtain ⟨c, r, rfl, -⟩ := h
  intro fuel rest hfuel hrest
  obtain ⟨fuel, rfl⟩ : ∃ n, fuel = n + 1 :=
    Nat.exists_eq_add_one_of_ne_zero (by rw [List.length_cons] at hfuel; omega)
  exact hread fuel rest hfuel hrest

theorem readsAs_int {limits : Limits} {i : Int}
    (hdigits : ∀ d ∈ limits.digits, (Nat.toDigits 10 i.natAbs).length ≤ d) :
    ReadsAs limits (.int i) (Decimal.intDigits i) := by
  refine readsAs_of_readValue (beginsValue_of_spells (.int i)) fun fuel rest _ hrest => ?_
  obtain ⟨c, r, hcons, hc⟩ := exists_intDigits_eq_cons i
  have hstart : c ≠ '"' ∧ c ≠ '[' ∧ c ≠ '\x7b' := by
    refine ⟨?_, ?_, ?_⟩ <;> rintro rfl <;> rcases hc with hc | hc <;> cases hc
  rw [hcons, List.cons_append, readValue_of_scalar hstart.1 hstart.2.1 hstart.2.2,
    ← List.cons_append, ← hcons]
  exact readScalar_intDigits hdigits hrest

theorem readsAs_arr {limits inner : Limits} {items : List Json} {s : List Char}
    (room : limits.inside .array = .ok inner)
    (hread : ∀ item ∈ items, ∀ t, Spells item t → ReadsAs inner item t)
    (h : Spells (.arr items) s) : ReadsAs limits (.arr items) s := by
  refine readsAs_of_readValue (beginsValue_of_spells h) fun fuel rest hfuel _ => ?_
  cases h with
  | noItems hgap =>
      have hskip := skipSpace_gap_mark (s := rest) hgap (.inr (.inl rfl) : IsMark ']')
      simp only [List.cons_append, List.append_assoc, List.nil_append]
      rw [readValue, room]
      simp only [bind, Except.bind, hskip]
      rfl
  | @items gap _ t hgap body =>
      rw [List.length_cons, List.length_append] at hfuel
      have hitems := readItems_of_spells hread body (by omega : t.length ≤ fuel) rest
      have hbegins := (beginsValue_of_spellsItems body).append rest
      rw [List.cons_append, List.append_assoc, readValue, room]
      simp only [bind, Except.bind, skipSpace_gap_append hgap hbegins]
      obtain ⟨c, r, hcons, hc⟩ := hbegins
      rw [hcons] at hitems ⊢
      split
      next heq =>
          cases heq
          cases hc
      next =>
          rw [hitems]
          rfl

theorem readsAs_obj {limits inner : Limits} {fields : Fields} {s : List Char}
    (room : limits.inside .object = .ok inner) (nodup : (Fields.keys fields).Nodup)
    (hread : ∀ field ∈ fields, ∀ t, Spells field.2 t → ReadsAs inner field.2 t)
    (h : Spells (.obj fields) s) : ReadsAs limits (.obj fields) s := by
  refine readsAs_of_readValue (beginsValue_of_spells h) fun fuel rest hfuel _ => ?_
  cases h with
  | noFields hgap =>
      have hskip := skipSpace_gap_mark (s := rest) hgap (.inr (.inr rfl) : IsMark '\x7d')
      simp only [List.cons_append, List.append_assoc, List.nil_append]
      rw [readValue, room]
      simp only [bind, Except.bind, hskip]
      rfl
  | @fields gap _ t hgap body =>
      rw [List.length_cons, List.length_append] at hfuel
      have hfields := readFields_of_spells hread body (by omega : t.length ≤ fuel) rest
      have hbegins := (beginsValue_of_spellsFields body).append rest
      rw [List.cons_append, List.append_assoc, readValue, room]
      simp only [bind, Except.bind, skipSpace_gap_append hgap hbegins]
      obtain ⟨c, r, hcons, hc⟩ := hbegins
      rw [hcons] at hfields ⊢
      split
      next heq =>
          cases heq
          cases hc
      next =>
          rw [hfields]
          simp only [Fields.ofPairs_of_nodup nodup]
          rfl

/-- A value that its texts tell exactly is read from each of them. -/
theorem readsAs_of_exact {limits : Limits} {v : Json} (h : v.Exact limits) {s : List Char}
    (hs : Spells v s) : ReadsAs limits v s := by
  induction h generalizing s with
  | null =>
      refine readsAs_of_readValue (beginsValue_of_spells hs) fun fuel rest _ _ => ?_
      cases hs
      exact readValue_of_scalar (by decide) (by decide) (by decide)
  | bool b =>
      refine readsAs_of_readValue (beginsValue_of_spells hs) fun fuel rest _ _ => ?_
      cases hs <;> exact readValue_of_scalar (by decide) (by decide) (by decide)
  | int hdigits =>
      cases hs
      exact readsAs_int hdigits
  | str s =>
      refine readsAs_of_readValue (beginsValue_of_spells hs) fun fuel rest _ _ => ?_
      cases hs with
      | str body =>
          rw [List.cons_append, List.append_assoc, List.singleton_append, readValue,
            readText_of_spellsText body]
          simp only [bind, Except.bind, String.ofList_toList]
          rfl
  | arr room _ ih => exact readsAs_arr room (fun item hitem t => ih item hitem) hs
  | obj room nodup _ ih => exact readsAs_obj room nodup (fun field hfield t => ih field hfield) hs

/-! ## Documents -/

section Documents

variable {limits : Limits} {v : Json} {s : List Char}

theorem skipSpace_of_isGap {gap : List Char} (h : IsGap gap) : skipSpace gap = [] := by
  rw [← List.append_nil gap, skipSpace_append h]
  rfl

/-- Behind the value of a document only space is left. -/
theorem readValue_of_isDocument (h : v.Exact limits) (hs : IsDocument v s) :
    ∃ after, IsGap after ∧
      readValue limits (2 * s.length + 2) (skipSpace s) = .ok (v, after) := by
  obtain ⟨before, body, after, hbefore, hbody, hafter, rfl⟩ := hs
  have hend : EndsValue after := fun c hc => .inl (hafter c (List.mem_of_mem_head? hc))
  refine ⟨after, hafter, ?_⟩
  rw [skipSpace_gap_append hbefore ((beginsValue_of_spells hbody).append after)]
  refine readsAs_of_exact h hbody _ after ?_ hend
  rw [List.length_append, List.length_append]
  omega

/-- Every text of a value is read as the value, within the limits of the reader. -/
theorem readWhole_of_isDocument (h : v.Exact limits) (hs : IsDocument v s) :
    readWhole limits s = .ok v := by
  obtain ⟨after, hafter, hvalue⟩ := readValue_of_isDocument h hs
  rw [readWhole, hvalue]
  simp only [skipSpace_of_isGap hafter]

/-- A document does not begin with a byte order mark. -/
theorem read_of_isDocument [OuterDepth] {text : String} (hs : IsDocument v text.toList) :
    read text = readWhole outerLimits text.toList := by
  obtain ⟨before, body, after, hbefore, hbody, -, htext⟩ := hs
  obtain ⟨c, r, hcons, hc⟩ := (beginsValue_of_spells hbody).append after
  rw [read]
  split
  next heq =>
      rw [htext] at heq
      cases before with
      | nil =>
          rw [List.nil_append, hcons] at heq
          exact absurd (List.cons.inj heq).1 (ne_of_opensValue hc (by decide))
      | cons space gap =>
          have hspace := hbefore space List.mem_cons_self
          rw [(List.cons.inj heq).1] at hspace
          cases hspace
  next => rfl

end Documents

end RequestAtlas.Json
