import RequestAtlas.Json.Value

/-!
# Checked input

A value that comes from outside is checked against the shape it should have.
The check reports every issue, each with its place in the value, in the order of
the fields of the shape; it does not stop at the first.
-/

namespace RequestAtlas.Check

/-- A step into a value: a field of an object, or an item of an array. -/
inductive Step where
  | key (name : String)
  | index (i : Nat)
  deriving DecidableEq, Repr

/-- What is wrong at some place. -/
inductive IssueKind where
  | missing
  | stringType
  | stringTooShort
  | listType
  | objectType
  | modelType
  | modelAttributesType
  | boolType
  | boolParsing
  | intType
  | intParsing
  | intParsingSize
  | intFromFloat
  | finiteNumber
  | jsonInvalid
  deriving DecidableEq, Repr

/-- The name of a kind of issue. -/
def IssueKind.name : IssueKind → String
  | .missing => "missing"
  | .stringType => "string_type"
  | .stringTooShort => "string_too_short"
  | .listType => "list_type"
  | .objectType => "dict_type"
  | .modelType => "model_type"
  | .modelAttributesType => "model_attributes_type"
  | .boolType => "bool_type"
  | .boolParsing => "bool_parsing"
  | .intType => "int_type"
  | .intParsing => "int_parsing"
  | .intParsingSize => "int_parsing_size"
  | .intFromFloat => "int_from_float"
  | .finiteNumber => "finite_number"
  | .jsonInvalid => "json_invalid"

/-- An issue at a place. -/
structure Issue where
  place : List Step
  kind : IssueKind
  deriving DecidableEq, Repr

/-- The value at a place. -/
def valueAt? : List Step → Json → Option Json
  | [], v => some v
  | .key name :: rest, .obj fields => (fields.lookup name).bind (valueAt? rest)
  | .index i :: rest, .arr items => items[i]?.bind (valueAt? rest)
  | _, _ => none

/-- What an issue of a value is about: the value at its place, or the object in
which that place is empty. -/
def Issue.subject? (issue : Issue) (v : Json) : Option Json :=
  valueAt? (if issue.kind = .missing then issue.place.dropLast else issue.place) v

/-- What a check gives: a value of the shape, or the issues. -/
inductive Checked (α : Type) where
  | valid (value : α)
  | invalid (issues : List Issue)
  deriving DecidableEq, Repr

namespace Checked

/-- Two checks side by side report the issues of both. -/
def both {α β : Type} : Checked (α → β) → Checked α → Checked β
  | .valid f, .valid a => .valid (f a)
  | .valid _, .invalid js => .invalid js
  | .invalid is, .valid _ => .invalid is
  | .invalid is, .invalid js => .invalid (is ++ js)

instance : Applicative Checked where
  pure := .valid
  seq f a := both f (a ())

/-- Reports an issue right here. -/
def fail {α : Type} (kind : IssueKind) : Checked α :=
  .invalid [⟨[], kind⟩]

/-- The issues as seen from one step further out. -/
def under {α : Type} (step : Step) : Checked α → Checked α
  | .valid a => .valid a
  | .invalid issues => .invalid (issues.map fun i => ⟨step :: i.place, i.kind⟩)

end Checked

/-- Checks the items of an array from the `i`-th on. -/
def items {α : Type} (check : Json → Checked α) : (i : Nat) → List Json → Checked (List α)
  | _, [] => .valid []
  | i, x :: xs => List.cons <$> (check x).under (.index i) <*> items check (i + 1) xs

/-- A list of checked items. -/
def list {α : Type} (check : Json → Checked α) : Json → Checked (List α)
  | .arr xs => items check 0 xs
  | _ => .fail .listType

/-- Null, or a checked value. -/
def nullable {α : Type} (check : Json → Checked α) : Json → Checked (Option α)
  | .null => .valid none
  | v => some <$> check v

/-- An object whose fields are checked together. -/
def object {α : Type} (check : Json.Fields → Checked α) : Json → Checked α
  | .obj fields => check fields
  | _ => .fail .modelType

/-- A field that must be there. -/
def required {α : Type} (key : String) (check : Json → Checked α) (fields : Json.Fields) :
    Checked α :=
  match fields.lookup key with
  | some v => (check v).under (.key key)
  | none => .invalid [⟨[.key key], .missing⟩]

/-- A field that may be left out. -/
def withDefault {α : Type} (key : String) (value : α) (check : Json → Checked α)
    (fields : Json.Fields) : Checked α :=
  match fields.lookup key with
  | some v => (check v).under (.key key)
  | none => .valid value

end RequestAtlas.Check
