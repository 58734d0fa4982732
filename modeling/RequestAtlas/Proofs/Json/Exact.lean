import RequestAtlas.Json.Reader
import RequestAtlas.Proofs.Json.Fields

/-!
# Values that a text tells exactly

Not every value can be read back from its text: an object that has a key twice loses
one of its fields, and a reader has limits. The predicate of this file leaves these
out; that it leaves out enough is the round trip of the next one. It leaves out
floating-point numbers as well, since that one comes back from its shortest decimal is
a matter of its own.

A value whose numbers have one digit meets the limits of a reader by its depth alone.
What is said of such a value is how many levels it needs (`ExactWithin`).
-/

namespace RequestAtlas.Json

/-! ## Inside a container -/

theorem Limits.inside_eq_ok_iff {limits inner : Limits} {container : Container} :
    limits.inside container = .ok inner ↔ limits.inner? = some inner := by
  unfold inside
  split
  next h => simp [h]
  next found h => simp [h]

theorem Limits.digits_of_inner? {limits inner : Limits} (h : limits.inner? = some inner) :
    inner.digits = limits.digits := by
  unfold inner? at h
  split at h
  · cases h; rfl
  · cases h
  · cases h; rfl

/-- A value within the limits of a reader that has no floating-point number and no
object with a key twice. -/
inductive Exact : Limits → Json → Prop
  | null {limits} : Exact limits .null
  | bool {limits} (b : Bool) : Exact limits (.bool b)
  | int {limits} {i : Int} (digits : ∀ d ∈ limits.digits, (Nat.toDigits 10 i.natAbs).length ≤ d) :
      Exact limits (.int i)
  | str {limits} (s : String) : Exact limits (.str s)
  | arr {limits inner items} (room : limits.inside .array = .ok inner)
      (items_exact : ∀ item ∈ items, Exact inner item) : Exact limits (.arr items)
  | obj {limits inner fields} (room : limits.inside .object = .ok inner)
      (nodup : (Fields.keys fields).Nodup) (values : ∀ field ∈ fields, Exact inner field.2) :
      Exact limits (.obj fields)

/-! ## Fields -/

namespace Fields

variable {fields : Fields} {key : String} {value : Json}

/-- Fields of distinct keys with values that are read back. -/
structure Exact (limits : Limits) (fields : Fields) : Prop where
  nodup : (keys fields).Nodup
  values : ∀ field ∈ fields, field.2.Exact limits

namespace Exact

variable {limits : Limits}

theorem nil : Exact limits [] :=
  ⟨List.nodup_nil, fun _ h => absurd h List.not_mem_nil⟩

theorem cons (hnew : key ∉ keys fields) (hvalue : value.Exact limits)
    (h : Exact limits fields) : Exact limits ((key, value) :: fields) :=
  ⟨List.nodup_cons.2 ⟨hnew, h.nodup⟩, List.forall_mem_cons.2 ⟨hvalue, h.values⟩⟩

theorem set (h : Exact limits fields) (hvalue : value.Exact limits) :
    Exact limits (fields.set key value) := by
  refine ⟨nodup_keys_set h.nodup, ?_⟩
  have hvalues := h.values
  clear h
  induction fields with
  | nil => exact List.forall_mem_singleton.2 hvalue
  | cons field rest ih =>
      obtain ⟨k, v⟩ := field
      rw [List.forall_mem_cons] at hvalues
      rw [Fields.set]
      split
      · exact List.forall_mem_cons.2 ⟨hvalue, hvalues.2⟩
      · exact List.forall_mem_cons.2 ⟨hvalues.1, ih hvalues.2⟩

theorem setAll (h : Exact limits fields) {pairs : Fields}
    (hpairs : ∀ pair ∈ pairs, pair.2.Exact limits) : Exact limits (fields.setAll pairs) := by
  induction pairs generalizing fields with
  | nil => exact h
  | cons pair rest ih =>
      rw [List.forall_mem_cons] at hpairs
      exact ih (h.set hpairs.1) hpairs.2

theorem ofPairs {pairs : Fields} (hpairs : ∀ pair ∈ pairs, pair.2.Exact limits) :
    Exact limits (Fields.ofPairs pairs) :=
  nil.setAll hpairs

end Exact

end Fields

/-! ## Without limits -/

/-- A value that some reader takes is taken by the one without limits. -/
theorem Exact.unlimited {limits : Limits} {v : Json} (h : v.Exact limits) : v.Exact {} := by
  induction h with
  | null => exact .null
  | bool b => exact .bool b
  | int => exact .int fun _ h => nomatch h
  | str s => exact .str s
  | arr _ _ ih => exact .arr rfl ih
  | obj _ nodup _ ih => exact .obj rfl nodup ih

theorem exact_obj_iff {fields : Fields} :
    (Json.obj fields).Exact {} ↔ fields.Exact {} := by
  constructor
  · rintro (_ | _ | _ | _ | _ | ⟨room, nodup, h⟩)
    cases room
    exact ⟨nodup, h⟩
  · exact fun h => .obj rfl h.nodup h.values

/-! ## Within a number of levels -/

/-- Whether a reader takes `n` values one inside the other. -/
def Limits.Allows (limits : Limits) (n : Nat) : Prop :=
  ∀ depth ∈ limits.depth, n ≤ depth

/-- Whether a reader takes integers of one digit. -/
def Limits.AllowsDigit (limits : Limits) : Prop :=
  ∀ digits ∈ limits.digits, 1 ≤ digits

theorem Limits.allows_succ_iff {limits inner : Limits} (h : limits.inner? = some inner)
    {n : Nat} : limits.Allows (n + 1) ↔ inner.Allows n := by
  obtain ⟨digits, _ | _ | depth⟩ := limits
  · cases h
    exact ⟨fun _ _ hdepth => (nomatch hdepth), fun _ _ hdepth => nomatch hdepth⟩
  · cases h
  · cases h
    simp [Allows]

theorem Limits.not_allows_succ {limits : Limits} (h : limits.inner? = none) (n : Nat) :
    ¬ limits.Allows (n + 1) := by
  obtain ⟨digits, _ | _ | depth⟩ := limits
  · cases h
  · exact fun hallows => Nat.not_succ_le_zero n (hallows 0 rfl)
  · cases h

theorem Limits.exists_inside {limits : Limits} {n : Nat} (h : limits.Allows (n + 1))
    (hdigit : limits.AllowsDigit) (container : Container) :
    ∃ inner, limits.inside container = .ok inner ∧ inner.Allows n ∧ inner.AllowsDigit := by
  cases hinner : limits.inner? with
  | none => exact absurd h (not_allows_succ hinner n)
  | some inner =>
      refine ⟨inner, inside_eq_ok_iff.2 hinner, (allows_succ_iff hinner).1 h, ?_⟩
      rw [AllowsDigit, digits_of_inner? hinner]
      exact hdigit

theorem Limits.allows_unlimited (n : Nat) : Limits.Allows {} n :=
  fun _ h => nomatch h

theorem Limits.allowsDigit_unlimited : Limits.AllowsDigit {} :=
  fun _ h => nomatch h

theorem allows_outerLimits_iff [OuterDepth] {n : Nat} :
    outerLimits.Allows n ↔ n ≤ OuterDepth.depth := by
  simp [Limits.Allows, outerLimits]

theorem allowsDigit_outerLimits [OuterDepth] : outerLimits.AllowsDigit := by
  intro digits h
  obtain rfl : Text.maxDigits = digits := Option.some.inj h
  decide

/-- A value that every reader reads back which takes `n` values one inside the other, and
integers of one digit. -/
def ExactWithin (n : Nat) (v : Json) : Prop :=
  ∀ limits : Limits, limits.Allows n → limits.AllowsDigit → v.Exact limits

namespace ExactWithin

variable {n : Nat}

theorem null : Json.null.ExactWithin n :=
  fun _ _ _ => .null

theorem str (s : String) : (Json.str s).ExactWithin n :=
  fun _ _ _ => .str s

theorem bool (b : Bool) : (Json.bool b).ExactWithin n :=
  fun _ _ _ => .bool b

theorem int {i : Int} (h : (Nat.toDigits 10 i.natAbs).length = 1) : (Json.int i).ExactWithin n :=
  fun _ _ hdigit => .int fun digits hdigits => h ▸ hdigit digits hdigits

theorem arr {items : List Json} (h : ∀ item ∈ items, item.ExactWithin n) :
    (Json.arr items).ExactWithin (n + 1) := by
  intro limits hroom hdigit
  obtain ⟨inner, hinside, hinner, hdigit⟩ := Limits.exists_inside hroom hdigit .array
  exact .arr hinside fun item hitem => h item hitem inner hinner hdigit

theorem strings (ss : List String) : (Json.strings ss).ExactWithin (n + 1) :=
  arr (List.forall_mem_map.2 fun s _ => str s)

/-- An object whose fields are read back, whatever writes them. -/
theorem fields {fields : Fields}
    (h : ∀ limits : Limits, limits.Allows n → limits.AllowsDigit → fields.Exact limits) :
    (Json.obj fields).ExactWithin (n + 1) := by
  intro limits hroom hdigit
  obtain ⟨inner, hinside, hinner, hdigit⟩ := Limits.exists_inside hroom hdigit .object
  have hexact := h inner hinner hdigit
  exact .obj hinside hexact.nodup hexact.values

theorem obj {fields : Fields} (nodup : (Fields.keys fields).Nodup)
    (h : ∀ field ∈ fields, field.2.ExactWithin n) : (Json.obj fields).ExactWithin (n + 1) :=
  .fields fun limits hroom hdigit =>
    ⟨nodup, fun field hfield => h field hfield limits hroom hdigit⟩

/-- An object of texts is read back when its keys are distinct. -/
theorem texts {fields : Fields} (nodup : (Fields.keys fields).Nodup)
    (htexts : ∀ field ∈ fields, ∃ s, field.2 = .str s) : (Json.obj fields).ExactWithin (n + 1) :=
  .obj nodup fun field hfield => by
    obtain ⟨s, hs⟩ := htexts field hfield
    rw [hs]
    exact str s

theorem mono {m : Nat} {v : Json} (h : v.ExactWithin n) (hle : n ≤ m) : v.ExactWithin m :=
  fun limits hroom => h limits fun depth hdepth => Nat.le_trans hle (hroom depth hdepth)

/-- What is within some number of levels is read back by a reader without limits. -/
theorem unlimited {v : Json} (h : v.ExactWithin n) : v.Exact {} :=
  h {} (Limits.allows_unlimited n) Limits.allowsDigit_unlimited

end ExactWithin

end RequestAtlas.Json
