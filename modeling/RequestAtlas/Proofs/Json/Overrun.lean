import RequestAtlas.Proofs.Json.Depth

/-!
# What overruns the limits of a writer

The fault of writing a value is looked for where the text of the value would come to it.
What it says does not depend on the place: a value without a fault keeps both limits, one
that is too deep has more levels than there is room for, and a long integer stands in the
value (`told_overrun?`). The three functions that look for it call each other, so the
theorem is one induction over all three; what it needs is how a cause inside a container
is one of the container (`Told.inside`), and how the first of two is one of both
(`Told.or`).

A value that a reader with the same limits takes has no fault (`Exact.overrun?_eq_none`).
-/

namespace RequestAtlas.Json

/-- Whether an integer has no more digits than the limits let it have. -/
def Limits.AllowsInteger (limits : Limits) (i : Int) : Prop :=
  ∀ digits ∈ limits.digits, (Nat.toDigits 10 i.natAbs).length ≤ digits

theorem any_digits_iff {limits : Limits} {i : Int} :
    limits.digits.any (· < (Nat.toDigits 10 i.natAbs).length) = true ↔
      ¬ limits.AllowsInteger i := by
  cases h : limits.digits <;> simp [Limits.AllowsInteger, h]

theorem overrun?_int_of_allows {limits : Limits} {i : Int} (h : limits.AllowsInteger i) :
    (Json.int i).overrun? limits = none :=
  if_neg fun hlong => any_digits_iff.1 hlong h

theorem overrun?_int_of_not_allows {limits : Limits} {i : Int} (h : ¬ limits.AllowsInteger i) :
    (Json.int i).overrun? limits = some .longInteger :=
  if_pos (any_digits_iff.2 h)

/-! ## Items and fields -/

theorem overrunOfItems?_eq (limits : Limits) (items : List Json) :
    overrunOfItems? limits items = items.findSome? (·.overrun? limits) := by
  induction items with
  | nil => rfl
  | cons item items ih =>
      rw [overrunOfItems?, List.findSome?_cons, ih]
      cases item.overrun? limits <;> rfl

theorem overrunOfFields?_eq (limits : Limits) (fields : Fields) :
    overrunOfFields? limits fields = fields.findSome? (·.2.overrun? limits) := by
  induction fields with
  | nil => rfl
  | cons field fields ih =>
      obtain ⟨key, value⟩ := field
      rw [overrunOfFields?, List.findSome?_cons, ih]
      cases value.overrun? limits <;> rfl

/-! ## What a fault tells -/

mutual

/-- The integers in a value, in their order. -/
def integers : Json → List Int
  | .int i => [i]
  | .arr items => integersOfItems items
  | .obj fields => integersOfFields fields
  | _ => []

/-- The integers in the items of an array. -/
def integersOfItems : List Json → List Int
  | [] => []
  | item :: items => integers item ++ integersOfItems items

/-- The integers in the fields of an object. -/
def integersOfFields : List (String × Json) → List Int
  | [] => []
  | (_, value) :: fields => integers value ++ integersOfFields fields

end

/-- What the fault of writing, or that there is none, tells about the levels and the
integers of what is written. -/
inductive Told (limits : Limits) (levels : Nat) (integers : List Int) : Option Fault → Prop
  | within (depth : limits.Allows levels) (digits : ∀ i ∈ integers, limits.AllowsInteger i) :
      Told limits levels integers none
  | tooDeep (deep : ¬ limits.Allows levels) :
      Told limits levels integers (some (.tooDeep noRoom))
  | longInteger {i : Int} (mem : i ∈ integers) (long : ¬ limits.AllowsInteger i) :
      Told limits levels integers (some .longInteger)

namespace Told

variable {limits inner : Limits} {m n : Nat} {is js : List Int} {x y : Option Fault}

theorem or (hx : Told limits m is x) (hy : Told limits n js y) :
    Told limits (max m n) (is ++ js) (x.or y) := by
  cases hx with
  | tooDeep deep =>
      exact .tooDeep fun h => deep fun depth hdepth =>
        Nat.le_trans (Nat.le_max_left m n) (h depth hdepth)
  | longInteger mem long => exact .longInteger (List.mem_append_left js mem) long
  | within depth digits =>
      cases hy with
      | tooDeep deep =>
          exact .tooDeep fun h => deep fun depth hdepth =>
            Nat.le_trans (Nat.le_max_right m n) (h depth hdepth)
      | longInteger mem long => exact .longInteger (List.mem_append_right is mem) long
      | within depth' digits' =>
          refine .within (fun d hd => Nat.max_le.2 ⟨depth d hd, depth' d hd⟩) fun i hi => ?_
          exact (List.mem_append.1 hi).elim (digits i) (digits' i)

theorem inside (h : limits.inner? = some inner) (hx : Told inner n is x) :
    Told limits (n + 1) is x := by
  have hallows : limits.Allows (n + 1) ↔ inner.Allows n := Limits.allows_succ_iff h
  have hinteger {i : Int} : limits.AllowsInteger i ↔ inner.AllowsInteger i := by
    rw [Limits.AllowsInteger, Limits.AllowsInteger, Limits.digits_of_inner? h]
  cases hx with
  | within depth digits => exact .within (hallows.2 depth) fun i hi => hinteger.2 (digits i hi)
  | tooDeep deep => exact .tooDeep (mt hallows.1 deep)
  | longInteger mem long => exact .longInteger mem (mt hinteger.1 long)

end Told

mutual

/-- What the fault of writing a value tells about it. -/
theorem told_overrun? (limits : Limits) (v : Json) :
    Told limits v.levels v.integers (v.overrun? limits) := by
  match v with
  | .null | .bool _ | .float _ | .str _ =>
      exact .within (fun _ _ => Nat.zero_le _) fun _ h => nomatch h
  | .int i =>
      by_cases h : limits.AllowsInteger i
      · rw [overrun?_int_of_allows h]
        exact .within (fun _ _ => Nat.zero_le _) (List.forall_mem_singleton.2 h)
      · rw [overrun?_int_of_not_allows h]
        exact .longInteger (List.mem_singleton.2 rfl) h
  | .arr items =>
      rw [overrun?, levels, integers]
      cases hinner : limits.inner? with
      | none => exact .tooDeep (Limits.not_allows_succ hinner _)
      | some inner => exact (told_overrunOfItems? inner items).inside hinner
  | .obj fields =>
      rw [overrun?, levels, integers]
      cases hinner : limits.inner? with
      | none => exact .tooDeep (Limits.not_allows_succ hinner _)
      | some inner => exact (told_overrunOfFields? inner fields).inside hinner

theorem told_overrunOfItems? (limits : Limits) (items : List Json) :
    Told limits (levelsOfItems items) (integersOfItems items) (overrunOfItems? limits items) := by
  match items with
  | [] => exact .within (fun _ _ => Nat.zero_le _) fun _ h => nomatch h
  | item :: items =>
      rw [overrunOfItems?, levelsOfItems, integersOfItems]
      exact (told_overrun? limits item).or (told_overrunOfItems? limits items)

theorem told_overrunOfFields? (limits : Limits) (fields : List (String × Json)) :
    Told limits (levelsOfFields fields) (integersOfFields fields)
      (overrunOfFields? limits fields) := by
  match fields with
  | [] => exact .within (fun _ _ => Nat.zero_le _) fun _ h => nomatch h
  | (key, value) :: fields =>
      rw [overrunOfFields?, levelsOfFields, integersOfFields]
      exact (told_overrun? limits value).or (told_overrunOfFields? limits fields)

end

/-! ## Values without a fault -/

/-- What a reader takes can be written within the same limits. -/
theorem Exact.overrun?_eq_none {limits : Limits} {v : Json} (h : v.Exact limits) :
    v.overrun? limits = none := by
  induction h with
  | null | bool _ | str _ => rfl
  | int hdigits => exact overrun?_int_of_allows hdigits
  | arr room _ ih =>
      rw [overrun?, Limits.inside_eq_ok_iff.1 room]
      dsimp only
      rw [overrunOfItems?_eq, List.findSome?_eq_none_iff]
      exact ih
  | obj room _ _ ih =>
      rw [overrun?, Limits.inside_eq_ok_iff.1 room]
      dsimp only
      rw [overrunOfFields?_eq, List.findSome?_eq_none_iff]
      exact ih

/-! ## Too deep -/

end RequestAtlas.Json
