import RequestAtlas.Text.Percent

/-!
# Percent encoding read back

A text is encoded by its octets, so that it is read back in two steps: the encoded text
gives the octets of the text again, whatever its characters are, and the octets of a text
give the text. For the second step a character is followed through its one to four octets;
an octet that may not follow the first one is never among them.

What an encoded text consists of is said by `IsEncoded`. It holds no delimiter of an
address.
-/

namespace RequestAtlas.Text

/-! ## Octets -/

theorem decodeOctetsFrom_last {low high code b : Nat} (rest : List Nat) (hb : low ≤ b ∧ b ≤ high) :
    decodeOctetsFrom (some ⟨0, low, high, code⟩) (b :: rest) =
      Char.ofNat (code * 0x40 + (b - 0x80)) :: decodeOctetsFrom none rest := by
  rw [decodeOctetsFrom, if_pos hb]

theorem decodeOctetsFrom_next {owed low high code b : Nat} (rest : List Nat)
    (hb : low ≤ b ∧ b ≤ high) :
    decodeOctetsFrom (some ⟨owed + 1, low, high, code⟩) (b :: rest) =
      decodeOctetsFrom (some ⟨owed, 0x80, 0xBF, code * 0x40 + (b - 0x80)⟩) rest := by
  rw [decodeOctetsFrom, if_pos hb]

theorem decodeOctetsFrom_opens {b : Nat} {p : Pending} (rest : List Nat)
    (h : firstOctet b = .opens p) :
    decodeOctetsFrom none (b :: rest) = decodeOctetsFrom (some p) rest := by
  rw [decodeOctetsFrom, h]

theorem toNat_valid (c : Char) : c.toNat < 0xD800 ∨ 0xDFFF < c.toNat ∧ c.toNat < 0x110000 :=
  c.valid

theorem firstOctet_two {b : Nat} (hlow : 0xC2 ≤ b) (hhigh : b < 0xE0) :
    firstOctet b = .opens ⟨0, 0x80, 0xBF, b - 0xC0⟩ := by
  rw [firstOctet, if_neg (by omega), if_neg (by omega), if_pos hhigh]

theorem firstOctet_three {b : Nat} (hlow : 0xE0 ≤ b) (hhigh : b < 0xF0) :
    firstOctet b =
      .opens ⟨1, if b = 0xE0 then 0xA0 else 0x80, if b = 0xED then 0x9F else 0xBF, b - 0xE0⟩ := by
  rw [firstOctet, if_neg (by omega), if_neg (by omega), if_neg (by omega), if_pos hhigh]

theorem firstOctet_four {b : Nat} (hlow : 0xF0 ≤ b) (hhigh : b < 0xF5) :
    firstOctet b =
      .opens ⟨2, if b = 0xF0 then 0x90 else 0x80, if b = 0xF4 then 0x8F else 0xBF, b - 0xF0⟩ := by
  rw [firstOctet, if_neg (by omega), if_neg (by omega), if_neg (by omega), if_neg (by omega),
    if_pos hhigh]

/-- The octets of a character are read as the character. -/
theorem decodeOctetsFrom_octets (c : Char) (rest : List Nat) :
    decodeOctetsFrom none (octets c ++ rest) = c :: decodeOctetsFrom none rest := by
  have hvalid := toNat_valid c
  have hback : ∀ n, n = c.toNat → Char.ofNat n = c := by
    rintro _ rfl
    exact Char.ofNat_toNat c
  simp only [octets]
  split
  · next hone =>
      have hfirst : firstOctet c.toNat = .whole c := by
        rw [firstOctet, if_pos hone, Char.ofNat_toNat]
      rw [List.singleton_append, decodeOctetsFrom, hfirst]
  · split
    · next htwo =>
        rw [List.cons_append, decodeOctetsFrom_opens _ (firstOctet_two (by omega) (by omega)),
          List.cons_append, decodeOctetsFrom_last _ (by omega), hback _ (by omega)]
        rfl
    · split
      · next hthree =>
          rw [List.cons_append, decodeOctetsFrom_opens _ (firstOctet_three (by omega) (by omega)),
            List.cons_append, decodeOctetsFrom_next _ (by split <;> split <;> omega),
            List.cons_append, decodeOctetsFrom_last _ (by omega), hback _ (by omega)]
          rfl
      · next hfour =>
          rw [List.cons_append, decodeOctetsFrom_opens _ (firstOctet_four (by omega) (by omega)),
            List.cons_append, decodeOctetsFrom_next _ (by split <;> split <;> omega),
            List.cons_append, decodeOctetsFrom_next _ (by omega),
            List.cons_append, decodeOctetsFrom_last _ (by omega), hback _ (by omega)]
          rfl

theorem decodeOctets_octets (s : List Char) : decodeOctets (s.flatMap octets) = s := by
  induction s with
  | nil => rfl
  | cons c s ih =>
      rw [List.flatMap_cons, decodeOctets, decodeOctetsFrom_octets]
      exact congrArg (c :: ·) ih

theorem octets_lt {c : Char} : ∀ b ∈ octets c, b < 256 := by
  have hvalid := toNat_valid c
  intro b hb
  simp only [octets] at hb
  split at hb
  · simp only [List.mem_cons, List.not_mem_nil, or_false] at hb
    omega
  · split at hb
    · simp only [List.mem_cons, List.not_mem_nil, or_false] at hb
      omega
    · split at hb <;> simp only [List.mem_cons, List.not_mem_nil, or_false] at hb <;> omega

/-! ## The encoded text -/

theorem percentOctets_percentOctet {b : Nat} (hb : b < 256) (rest : List Char) :
    percentOctets (percentOctet b ++ rest) = b :: percentOctets rest := by
  have hhigh := hexValue?_upperHexDigit (by omega : b / 16 < 16)
  have hlow := hexValue?_upperHexDigit (by omega : b % 16 < 16)
  show percentOctets ('%' :: upperHexDigit (b / 16) :: upperHexDigit (b % 16) :: rest) = _
  rw [percentOctets, hhigh, hlow]
  dsimp only
  rw [Nat.div_add_mod]

theorem percentOctets_flatMap {bs : List Nat} (hbs : ∀ b ∈ bs, b < 256) (rest : List Char) :
    percentOctets (bs.flatMap percentOctet ++ rest) = bs ++ percentOctets rest := by
  induction bs with
  | nil => rfl
  | cons b bs ih =>
      rw [List.forall_mem_cons] at hbs
      rw [List.flatMap_cons, List.append_assoc, percentOctets_percentOctet hbs.1, ih hbs.2]
      rfl

theorem percentOctets_cons {c : Char} (rest : List Char) (hc : c ≠ '%') :
    percentOctets (c :: rest) = octets c ++ percentOctets rest := by
  rw [percentOctets.eq_3 c rest fun _ _ _ heq _ => hc heq]

variable {keep : Char → Bool}

/-- An encoded text gives the octets of the text, if percent signs are encoded. -/
theorem percentOctets_percentEncode (hkeep : keep '%' = false) (s : List Char) :
    percentOctets (percentEncode keep s) = s.flatMap octets := by
  induction s with
  | nil => rfl
  | cons c s ih =>
      rw [percentEncode] at ih ⊢
      rw [List.flatMap_cons, List.flatMap_cons]
      cases hc : keep c with
      | true =>
          have hne : c ≠ '%' := fun heq => by simp [heq, hkeep] at hc
          rw [if_pos rfl, List.singleton_append, percentOctets_cons _ hne, ih]
      | false => rw [if_neg (by simp), percentOctets_flatMap octets_lt, ih]

theorem percentDecode_percentEncode (hkeep : keep '%' = false) (s : List Char) :
    percentDecode (percentEncode keep s) = s := by
  rw [percentDecode, percentOctets_percentEncode hkeep, decodeOctets_octets]

/-- Whether a character is an upper-case hexadecimal digit. -/
def isUpperHexDigit (c : Char) : Bool :=
  c.isDigit || ('A' ≤ c && c ≤ 'F')

/-- A text of unreserved characters and of percent signs with two upper-case hexadecimal
digits behind each. -/
inductive IsEncoded : List Char → Prop
  | nil : IsEncoded []
  | kept {c : Char} {r : List Char} (hc : isUnreserved c = true) (hr : IsEncoded r) :
      IsEncoded (c :: r)
  | octet {a b : Char} {r : List Char} (ha : isUpperHexDigit a = true)
      (hb : isUpperHexDigit b = true) (hr : IsEncoded r) : IsEncoded ('%' :: a :: b :: r)

theorem IsEncoded.append {s t : List Char} (hs : IsEncoded s) (ht : IsEncoded t) :
    IsEncoded (s ++ t) := by
  induction hs with
  | nil => exact ht
  | kept hc _ ih => exact .kept hc ih
  | octet ha hb _ ih => exact .octet ha hb ih

theorem isUpperHexDigit_upperHexDigit {n : Nat} (h : n < 16) :
    isUpperHexDigit (upperHexDigit n) = true :=
  (by decide : ∀ n < 16, isUpperHexDigit (upperHexDigit n) = true) n h

theorem isEncoded_octets {bs : List Nat} (hbs : ∀ b ∈ bs, b < 256) :
    IsEncoded (bs.flatMap percentOctet) := by
  induction bs with
  | nil => exact .nil
  | cons b bs ih =>
      rw [List.forall_mem_cons] at hbs
      exact .octet (isUpperHexDigit_upperHexDigit (by omega))
        (isUpperHexDigit_upperHexDigit (by omega)) (ih hbs.2)

theorem isEncoded_percentEncode (s : List Char) : IsEncoded (percentEncode isUnreserved s) := by
  induction s with
  | nil => exact .nil
  | cons c s ih =>
      rw [percentEncode, List.flatMap_cons]
      refine IsEncoded.append ?_ ih
      split
      · next hc => exact .kept hc .nil
      · exact isEncoded_octets octets_lt

theorem isUnreserved_of_isUpperHexDigit {c : Char} (h : isUpperHexDigit c = true) :
    isUnreserved c = true := by
  have halphanum : c.isAlphanum = true := by
    simp only [isUpperHexDigit, Bool.or_eq_true, Bool.and_eq_true, decide_eq_true_eq] at h
    rw [Char.isAlphanum, Bool.or_eq_true]
    rcases h with hdigit | ⟨hlow, hhigh⟩
    · exact .inr hdigit
    · have hupper : c.isUpper = true :=
        decide_eq_true ⟨hlow, Char.le_trans hhigh (by decide : 'F' ≤ 'Z')⟩
      exact .inl (Bool.or_eq_true_iff.2 (.inl hupper))
  simp [isUnreserved, halphanum]

/-- A delimiter stands in no encoded text. -/
theorem IsEncoded.not_mem {s : List Char} (h : IsEncoded s) {c : Char} (hne : c ≠ '%')
    (hc : isUnreserved c = false) : c ∉ s := by
  have hkept : ∀ d, isUnreserved d = true → c ≠ d := by
    rintro d hd rfl
    exact Bool.noConfusion (hc.symm.trans hd)
  induction h with
  | nil => exact List.not_mem_nil
  | kept hd _ ih => exact List.not_mem_cons_of_ne_of_not_mem (hkept _ hd) ih
  | octet ha hb _ ih =>
      simp only [List.mem_cons, not_or]
      exact ⟨hne, hkept _ (isUnreserved_of_isUpperHexDigit ha),
        hkept _ (isUnreserved_of_isUpperHexDigit hb), ih⟩

end RequestAtlas.Text
