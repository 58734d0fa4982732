import RequestAtlas.Net.Address.Basic
import RequestAtlas.Proofs.Text.Percent
import RequestAtlas.Proofs.Text.Pieces

/-!
# A form as the query of an address

The fields of a form are encoded with more care than a query asks for: whatever is left of them
stands for itself in a query, and so do the signs between them. So the query is the text of the
form (`percentEncode_formText`). The other parts of an address do not depend on it, which leaves
one thing that may be wrong with the next form when one has gone well, its length
(`Address.withForm_of_withForm`).
-/

namespace RequestAtlas

theorem Text.percentEncode_eq_self {keep : Char → Bool} {s : List Char}
    (h : ∀ c ∈ s, keep c = true) : percentEncode keep s = s := by
  induction s with
  | nil => rfl
  | cons c s ih =>
      rw [List.forall_mem_cons] at h
      rw [percentEncode, List.flatMap_cons, if_pos h.1]
      exact congrArg (c :: ·) (ih h.2)

namespace Net

/-! ## The query of a form -/

/-- The text of form fields. -/
def formText (fields : List Parameter) : List Char :=
  Text.join ['&'] <| fields.map fun p =>
    Text.formEncode p.key.toList ++ '=' :: Text.formEncode p.value.toList

theorem isQueryChar_of_isUnreserved {c : Char} (h : Text.isUnreserved c = true) :
    isQueryChar c = true := by
  have hvisible : 0x20 < c.toNat ∧ c.toNat < 0x7F := by
    have hrange {first last : Char} (hfirst : 0x20 < first.toNat) (hlast : last.toNat < 0x7F)
        (hlow : first.val ≤ c.val) (hhigh : c.val ≤ last.val) :
        0x20 < c.toNat ∧ c.toNat < 0x7F :=
      ⟨Nat.lt_of_lt_of_le hfirst hlow, Nat.lt_of_le_of_lt hhigh hlast⟩
    simp only [Text.isUnreserved, Char.isAlphanum, Bool.or_eq_true, beq_iff_eq] at h
    rcases h with ((((hletter | hdigit) | rfl) | rfl) | rfl) | rfl
    · rcases Bool.or_eq_true_iff.1 hletter with hupper | hlower
      · obtain ⟨hlow, hhigh⟩ := of_decide_eq_true hupper
        exact hrange (by decide) (by decide) hlow hhigh
      · obtain ⟨hlow, hhigh⟩ := Bool.and_eq_true_iff.1 hlower
        exact hrange (by decide) (by decide) (of_decide_eq_true hlow) (of_decide_eq_true hhigh)
    · obtain ⟨hlow, hhigh⟩ := Bool.and_eq_true_iff.1 hdigit
      exact hrange (by decide) (by decide) (of_decide_eq_true hlow) (of_decide_eq_true hhigh)
    all_goals decide
  have hkept : ['"', '#', '<', '>'].contains c = false := by
    rw [← Bool.not_eq_true, List.contains_iff_mem]
    intro hmem
    have hreserved : (['"', '#', '<', '>'].all fun d => !Text.isUnreserved d) = true := rfl
    have hc := List.all_eq_true.1 hreserved c hmem
    rw [h] at hc
    exact Bool.noConfusion hc
  rw [isQueryChar, isVisibleBut, hkept, decide_eq_true hvisible.1, decide_eq_true hvisible.2]
  rfl

theorem isQueryChar_formEncode {s : List Char} {c : Char} (h : c ∈ Text.formEncode s) :
    isQueryChar c = true := by
  obtain ⟨d, -, hd⟩ := List.mem_flatMap.1 h
  split at hd
  · rw [List.mem_singleton.1 hd]
    rfl
  · cases hc : Text.isUnreserved c with
    | true => exact isQueryChar_of_isUnreserved hc
    | false =>
        by_cases hpercent : c = '%'
        · rw [hpercent]
          rfl
        · exact absurd hd ((Text.isEncoded_percentEncode [d]).not_mem hpercent hc)

/-- The text of a form stands for itself in a query. -/
theorem percentEncode_formText (fields : List Parameter) :
    Text.percentEncode isQueryChar (formText fields) = formText fields := by
  refine Text.percentEncode_eq_self (Iff.mpr (Text.forall_mem_join ?_) fun piece hpiece c hc => ?_)
  · rfl
  obtain ⟨p, -, rfl⟩ := List.mem_map.1 hpiece
  rcases List.mem_append.1 hc with hkey | hvalue
  · exact isQueryChar_formEncode hkey
  · rcases List.mem_cons.1 hvalue with rfl | hvalue
    · rfl
    · exact isQueryChar_formEncode hvalue

/-! ## Addresses with another query -/

namespace Address

theorem ofParts_query (p : Parts) (q : Option (List Char)) :
    ofParts { p with query := q } =
      (ofParts p).map fun a => { a with query := q.map (Text.percentEncode isQueryChar) } := by
  unfold ofParts
  cases Authority.ofText p.scheme p.authority with
  | error flaw => rfl
  | ok authority =>
      dsimp only [bind, Except.bind]
      cases pathFlaw? (!p.scheme.isEmpty) (!authority.isEmpty) p.path with
      | none => rfl
      | some flaw => rfl

/-- When parts make an address, only the length of another query can keep them from making one
with that query. -/
theorem Parts.assemble_query {p : Parts} {q : List Char} {a : Address}
    (h : ({ p with query := some q } : Parts).assemble = .ok a) (other : List Char) :
    ({ p with query := some other } : Parts).assemble =
      if maxLength < other.length then .error .tooLong
      else .ok { a with query := some (Text.percentEncode isQueryChar other) } := by
  unfold assemble at h ⊢
  dsimp only at h ⊢
  rw [ofParts_query] at h ⊢
  split at h
  · cases h
  next hshort =>
      have hiff : ([p.scheme, p.authority, p.path] ++ (some other).toList ++ p.fragment.toList).any
          (maxLength < ·.length) = true ↔ maxLength < other.length := by
        simp only [List.any_append, List.any_cons, List.any_nil, Option.toList_some,
          Bool.or_eq_true, Bool.or_false, decide_eq_true_eq, not_or, Bool.not_eq_true] at hshort ⊢
        obtain ⟨⟨⟨hscheme, hauthority, hpath⟩, -⟩, hfragment⟩ := hshort
        simp only [hscheme, hauthority, hpath, hfragment, false_or, or_false, Bool.false_eq_true]
      rw [if_congr hiff rfl rfl]
      cases hparts : ofParts p with
      | error flaw => rw [hparts] at h; cases h
      | ok c => rw [hparts] at h; cases h; rfl

/-- Of two forms for one address the second one can only be too long if the first one can be
sent. -/
theorem withForm_of_withForm {a b : Address} {form : List Parameter} (h : a.withForm form = .ok b)
    (other : List Parameter) :
    a.withForm other =
      if maxLength < (formText other).length then .error .tooLong
      else .ok { b with query := some (formText other) } := by
  have hassemble := Parts.assemble_query (p := a.parts) h (formText other)
  rwa [percentEncode_formText] at hassemble

end Address

end Net

end RequestAtlas
