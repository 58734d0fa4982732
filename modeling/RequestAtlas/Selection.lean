import RequestAtlas.Text.Case
import RequestAtlas.Text.Search

/-!
# Selections of tables

A selection keeps the names of a schema's tables, which of them are selected,
and a search text. It is a value: every edit makes a new selection. The selected
names are kept in the order of the schema, so two selections with the same
members are the same.
-/

namespace RequestAtlas

/-- A selection among the names of a schema's tables. -/
structure Selection where
  names : List String
  selected : List String
  filter : String
  deriving DecidableEq, Repr, Inhabited

namespace Selection

/-- The first selection: every name that is not to be skipped. -/
def ofSkipped (names skipped : List String) : Selection where
  names := names
  selected := names.filter (!skipped.contains ·)
  filter := ""

/-- Selects every name. -/
def selectAll (s : Selection) : Selection :=
  { s with selected := s.names }

/-- Selects no name. -/
def deselectAll (s : Selection) : Selection :=
  { s with selected := [] }

/-- Whether a name is selected. -/
def isSelected (s : Selection) (name : String) : Bool :=
  s.selected.contains name

/-- Turns a name over. A name that is not among the names changes nothing. -/
def toggle (s : Selection) (name : String) : Selection :=
  if s.names.contains name then
    { s with selected := s.names.filter fun n => s.isSelected n != (n == name) }
  else s

/-- Sets the search text. -/
def setFilter (s : Selection) (text : String) : Selection :=
  { s with filter := text }

/-- The selected names in the order of the schema. -/
def selectedNames (s : Selection) : List String :=
  s.names.filter s.isSelected

/-- Whether a name holds the search text, the case of both aside. -/
def matchesFilter (s : Selection) (name : String) : Bool :=
  Text.contains (Text.lower s.filter.toList) (Text.lower name.toList)

/-- The names that hold the search text. -/
def visible (s : Selection) : List String :=
  s.names.filter s.matchesFilter

/-- An edit of a selection. -/
inductive Edit where
  | selectAll
  | deselectAll
  | toggle (name : String)
  | setFilter (text : String)
  deriving DecidableEq, Repr

/-- The selection after an edit. -/
def apply (s : Selection) : Edit → Selection
  | .selectAll => s.selectAll
  | .deselectAll => s.deselectAll
  | .toggle name => s.toggle name
  | .setFilter text => s.setFilter text

end Selection

end RequestAtlas
