import RequestAtlas.Decimal.Binary64

/-!
# JSON values

Values as they stand in a document: an integer of any size and a floating-point
number are different things, and an object is a list of fields in their order.
An object that was read or built field by field has each key once.
-/

namespace RequestAtlas

/-- A JSON value. -/
inductive Json where
  | null
  | bool (b : Bool)
  | int (i : Int)
  | float (x : Binary64)
  | str (s : String)
  | arr (items : List Json)
  | obj (fields : List (String × Json))
  deriving Repr, Inhabited

namespace Json

mutual

/-- Decides the equality of two values. -/
def decEq : (a b : Json) → Decidable (a = b)
  | .null, .null => isTrue rfl
  | .bool x, .bool y => decidable_of_iff (x = y) (by simp)
  | .int x, .int y => decidable_of_iff (x = y) (by simp)
  | .float x, .float y => decidable_of_iff (x = y) (by simp)
  | .str x, .str y => decidable_of_iff (x = y) (by simp)
  | .arr xs, .arr ys =>
    match decEqItems xs ys with
    | isTrue h => isTrue (by rw [h])
    | isFalse h => isFalse (by simp [h])
  | .obj xs, .obj ys =>
    match decEqFields xs ys with
    | isTrue h => isTrue (by rw [h])
    | isFalse h => isFalse (by simp [h])
  | .null, .bool _ | .null, .int _ | .null, .float _ | .null, .str _ | .null, .arr _
  | .null, .obj _ | .bool _, .null | .bool _, .int _ | .bool _, .float _ | .bool _, .str _
  | .bool _, .arr _ | .bool _, .obj _ | .int _, .null | .int _, .bool _ | .int _, .float _
  | .int _, .str _ | .int _, .arr _ | .int _, .obj _ | .float _, .null | .float _, .bool _
  | .float _, .int _ | .float _, .str _ | .float _, .arr _ | .float _, .obj _
  | .str _, .null | .str _, .bool _ | .str _, .int _ | .str _, .float _ | .str _, .arr _
  | .str _, .obj _ | .arr _, .null | .arr _, .bool _ | .arr _, .int _ | .arr _, .float _
  | .arr _, .str _ | .arr _, .obj _ | .obj _, .null | .obj _, .bool _ | .obj _, .int _
  | .obj _, .float _ | .obj _, .str _ | .obj _, .arr _ => isFalse (by simp)

/-- Decides the equality of two lists of values. -/
def decEqItems : (xs ys : List Json) → Decidable (xs = ys)
  | [], [] => isTrue rfl
  | x :: xs, y :: ys =>
    match decEq x y, decEqItems xs ys with
    | isTrue h, isTrue hs => isTrue (by rw [h, hs])
    | isFalse h, _ => isFalse (by simp [h])
    | _, isFalse hs => isFalse (by simp [hs])
  | [], _ :: _ | _ :: _, [] => isFalse (by simp)

/-- Decides the equality of two lists of fields. -/
def decEqFields : (xs ys : List (String × Json)) → Decidable (xs = ys)
  | [], [] => isTrue rfl
  | (k, x) :: xs, (l, y) :: ys =>
    if hk : k = l then
      match decEq x y, decEqFields xs ys with
      | isTrue h, isTrue hs => isTrue (by rw [hk, h, hs])
      | isFalse h, _ => isFalse (by simp [h])
      | _, isFalse hs => isFalse (by simp [hs])
    else isFalse (by simp [hk])
  | [], _ :: _ | _ :: _, [] => isFalse (by simp)

end

instance : DecidableEq Json :=
  decEq

/-- The fields of an object. -/
abbrev Fields := List (String × Json)

namespace Fields

/-- The fields with `key` set to `value`: in its place when the key is there,
at the end otherwise. -/
def set (key : String) (value : Json) : Fields → Fields
  | [] => [(key, value)]
  | (k, v) :: rest => if k = key then (k, value) :: rest else (k, v) :: set key value rest

/-- The fields after writing every pair in turn. -/
def setAll (fields : Fields) (pairs : List (String × Json)) : Fields :=
  pairs.foldl (fun acc pair => set pair.1 pair.2 acc) fields

/-- The fields left after writing every pair in turn into an empty object: a key
keeps its first place and takes its last value. -/
def ofPairs (pairs : List (String × Json)) : Fields :=
  setAll [] pairs

/-- The keys in order. -/
def keys (fields : Fields) : List String :=
  fields.map (·.1)

end Fields

/-- The value of a field of an object. -/
def get? (key : String) : Json → Option Json
  | .obj fields => fields.lookup key
  | _ => none

/-- Whether the value counts as absent: null, false, a zero, or empty. -/
def isEmpty : Json → Bool
  | .null => true
  | .bool b => !b
  | .int i => i == 0
  | .float x => x.isZero
  | .str s => s.isEmpty
  | .arr items => items.isEmpty
  | .obj fields => fields.isEmpty

mutual

/-- Whether every number in a value is finite. The standard has no text for the
other numbers. -/
def isStandard : Json → Bool
  | .float x => x.isFinite
  | .arr items => areStandard items
  | .obj fields => holdStandard fields
  | _ => true

/-- Whether every number in the items of an array is finite. -/
def areStandard : List Json → Bool
  | [] => true
  | item :: items => isStandard item && areStandard items

/-- Whether every number in the fields of an object is finite. -/
def holdStandard : List (String × Json) → Bool
  | [] => true
  | (_, value) :: fields => isStandard value && holdStandard fields

end

mutual

/-- A value with null in place of every number that is not finite. -/
def standardized : Json → Json
  | .float x => if x.isFinite then .float x else .null
  | .arr items => .arr (standardizedItems items)
  | .obj fields => .obj (standardizedFields fields)
  | v => v

/-- The items of an array with null in place of every number that is not finite. -/
def standardizedItems : List Json → List Json
  | [] => []
  | item :: items => standardized item :: standardizedItems items

/-- The fields of an object with null in place of every number that is not finite. -/
def standardizedFields : List (String × Json) → List (String × Json)
  | [] => []
  | (key, value) :: fields => (key, standardized value) :: standardizedFields fields

end

mutual

/-- How many values at most stand one inside the other, the innermost included. -/
def height : Json → Nat
  | .arr items => heightOfItems items + 1
  | .obj fields => heightOfFields fields + 1
  | _ => 1

/-- The greatest height of an item of an array. -/
def heightOfItems : List Json → Nat
  | [] => 0
  | item :: items => max (height item) (heightOfItems items)

/-- The greatest height of a value in the fields of an object. -/
def heightOfFields : List (String × Json) → Nat
  | [] => 0
  | (_, value) :: fields => max (height value) (heightOfFields fields)

end

/-- An array of strings. -/
def strings (ss : List String) : Json :=
  .arr (ss.map .str)

/-- A string, or null. -/
def ofOption : Option String → Json
  | some s => .str s
  | none => .null

end Json

end RequestAtlas
