import RequestAtlas.Json.Printer
import RequestAtlas.Proofs.Json.Spelling

/-!
# Reading back what was written

What is written of a value is one of its texts, whatever the style (`spells_print`). So a
value that its text tells exactly is read back from it (`readWhole_print`).
-/

namespace RequestAtlas.Json

/-- A style that sets nothing but space between the parts of a document. -/
structure Style.IsSpaced (st : Style) : Prop where
  gap : ∀ depth, IsGap (st.gap depth)
  colon : ∃ gap, st.colon = ':' :: gap ∧ IsGap gap

theorem Style.isSpaced_indented : Style.indented.IsSpaced where
  gap depth := by
    intro c hc
    rw [Style.indented, List.mem_cons] at hc
    rcases hc with rfl | hc
    · rfl
    · rw [(List.mem_replicate.1 hc).2]
      rfl
  colon := ⟨[' '], rfl, List.forall_mem_singleton.2 rfl⟩

theorem Style.isSpaced_compact : Style.compact.IsSpaced where
  gap _ := fun _ h => absurd h List.not_mem_nil
  colon := ⟨[], rfl, fun _ h => absurd h List.not_mem_nil⟩

/-! ## Texts -/

theorem hexValue?_digitChar {n : Nat} (h : n < 16) : Text.hexValue? (Nat.digitChar n) = some n :=
  (by decide : ∀ n < 16, Text.hexValue? (Nat.digitChar n) = some n) n h

/-- The two digits of a control character, behind two zeros. -/
theorem areDigits_control {n : Nat} (h : n < 0x20) :
    AreDigits n '0' '0' (Nat.digitChar (n / 16)) (Nat.digitChar (n % 16)) where
  first := by
    rw [Nat.div_eq_of_lt (by omega)]
    rfl
  second := by
    rw [Nat.div_eq_of_lt (by omega)]
    rfl
  third := by rw [hexValue?_digitChar (by omega), Nat.mod_eq_of_lt (by omega : n / 16 < 16)]
  fourth := hexValue?_digitChar (by omega)

/-- An escaped character says the character. -/
theorem spellsText_escape {cs s : List Char} (c : Char) (rest : SpellsText cs s) :
    SpellsText (c :: cs) (escape c ++ s) := by
  rw [escape]
  -- one case for every escape, then the controls without one, then all other characters
  split
  · subst c; exact .escaped (by decide) rest
  split
  · subst c; exact .escaped (by decide) rest
  split
  · subst c; exact .escaped (by decide) rest
  split
  · subst c; exact .escaped (by decide) rest
  split
  · subst c; exact .escaped (by decide) rest
  split
  · subst c; exact .escaped (by decide) rest
  split
  · subst c; exact .escaped (by decide) rest
  split
  next h => exact .numbered (areDigits_control h) rest
  next => exact .plain ‹_› ‹_› ‹_› rest

theorem spellsText_flatMap (cs : List Char) : SpellsText cs (cs.flatMap escape) := by
  induction cs with
  | nil => exact .nil
  | cons c cs ih => exact spellsText_escape c ih

theorem spellsKey_quoted {st : Style} (hst : st.IsSpaced) (key : String) :
    SpellsKey key (quoted key ++ st.colon) := by
  obtain ⟨gap, hcolon, hgap⟩ := hst.colon
  refine ⟨_, [], gap, spellsText_flatMap key.toList, isGap_nil, hgap, ?_⟩
  rw [quoted, hcolon]
  simp only [List.cons_append, List.append_assoc, List.nil_append]

/-! ## Containers -/

/-- What stands behind a piece of a container at `depth`: the other pieces and the
closing bracket. -/
def Style.tail (st : Style) (depth : Nat) (closing : Char) : List (List Char) → List Char
  | [] => st.gap depth ++ [closing]
  | piece :: pieces => ',' :: (st.gap (depth + 1) ++ (piece ++ st.tail depth closing pieces))

theorem enclosed_cons (st : Style) (depth : Nat) (opening closing : Char) (piece : List Char)
    (pieces : List (List Char)) :
    enclosed st depth opening closing (piece :: pieces) =
      opening :: (st.gap (depth + 1) ++ (piece ++ st.tail depth closing pieces)) := by
  have htail : pieces.flatMap (fun p => ',' :: st.gap (depth + 1) ++ p) ++
      (st.gap depth ++ [closing]) = st.tail depth closing pieces := by
    induction pieces with
    | nil => rfl
    | cons p ps ih =>
        rw [List.flatMap_cons, List.append_assoc, ih, Style.tail, List.cons_append,
          List.cons_append, List.append_assoc]
  rw [← htail, enclosed]
  simp only [List.cons_append, List.append_assoc]

section Print

variable {st : Style} {depth : Nat}

theorem spellsItems_print (hst : st.IsSpaced) {item : Json} {items : List Json}
    (h : ∀ i ∈ item :: items, Spells i (print st (depth + 1) i)) :
    SpellsItems (item :: items) (print st (depth + 1) item ++
      st.tail depth ']' (printItems st (depth + 1) items)) := by
  induction items generalizing item with
  | nil => exact .last (h item List.mem_cons_self) (hst.gap depth)
  | cons next items ih =>
      rw [List.forall_mem_cons] at h
      exact .next h.1 isGap_nil (hst.gap (depth + 1)) (ih h.2)

theorem spellsFields_print (hst : st.IsSpaced) {field : String × Json} {fields : Fields}
    (h : ∀ f ∈ field :: fields, Spells f.2 (print st (depth + 1) f.2)) :
    SpellsFields (field :: fields) (quoted field.1 ++ st.colon ++ print st (depth + 1) field.2 ++
      st.tail depth '\x7d' (printFields st (depth + 1) fields)) := by
  induction fields generalizing field with
  | nil =>
      rw [List.append_assoc]
      exact .last (spellsKey_quoted hst field.1) (h field List.mem_cons_self) (hst.gap depth)
  | cons next fields ih =>
      rw [List.forall_mem_cons] at h
      rw [List.append_assoc]
      exact .next (spellsKey_quoted hst field.1) h.1 isGap_nil
        (hst.gap (depth + 1)) (ih h.2)

/-- What is written of a value is one of its texts. -/
theorem spells_print (hst : st.IsSpaced) {limits : Limits} {v : Json} (h : v.Exact limits)
    (depth : Nat) : Spells v (print st depth v) := by
  induction h generalizing depth with
  | null => exact .null
  | bool b =>
      cases b with
      | true => exact .true
      | false => exact .false
  | @int _ i _ => exact .int i
  | str s => exact .str (spellsText_flatMap s.toList)
  | @arr _ _ items _ _ ih =>
      cases items with
      | nil => exact .noItems isGap_nil
      | cons item items =>
          rw [print, printItems, enclosed_cons]
          exact .items (hst.gap _) (spellsItems_print hst fun i hi => ih i hi _)
  | @obj _ _ fields _ _ _ ih =>
      cases fields with
      | nil => exact .noFields isGap_nil
      | cons field fields =>
          rw [print, printFields, enclosed_cons]
          exact .fields (hst.gap _) (spellsFields_print hst fun f hf => ih f hf _)

end Print

/-! ## Documents -/

theorem isDocument_print {st : Style} (hst : st.IsSpaced) {limits : Limits} {v : Json}
    (h : v.Exact limits) : IsDocument v (print st 0 v) :=
  ⟨[], print st 0 v, [], isGap_nil, spells_print hst h 0, isGap_nil,
    by rw [List.nil_append, List.append_nil]⟩

/-- Reading inverts writing, in every style and within the limits of the reader. -/
theorem readWhole_print {st : Style} (hst : st.IsSpaced) {limits : Limits} {v : Json}
    (h : v.Exact limits) : readWhole limits (print st 0 v) = .ok v :=
  readWhole_of_isDocument h (isDocument_print hst h)

theorem isDocument_indented {limits : Limits} {v : Json} (h : v.Exact limits) :
    IsDocument v v.indented.toList := by
  rw [indented, String.toList_ofList]
  exact isDocument_print Style.isSpaced_indented h

theorem isDocument_compact {limits : Limits} {v : Json} (h : v.Exact limits) :
    IsDocument v v.compact.toList := by
  rw [compact, String.toList_ofList]
  exact isDocument_print Style.isSpaced_compact h

theorem read_indented [OuterDepth] {v : Json} (h : v.Exact outerLimits) :
    read v.indented = .ok v := by
  rw [read_of_isDocument (isDocument_indented h),
    readWhole_of_isDocument h (isDocument_indented h)]

theorem ExactWithin.read_indented [OuterDepth] {n : Nat} {v : Json} (h : v.ExactWithin n)
    (hroom : outerLimits.Allows n) : read v.indented = .ok v :=
  Json.read_indented (h outerLimits hroom allowsDigit_outerLimits)

end RequestAtlas.Json
