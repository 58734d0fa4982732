/-!
# Schemas

A schema is what a schema text says: tables with typed columns, and references
between columns, both in the order of the text. Names may repeat, and a
reference may name what no table has.
-/

namespace RequestAtlas

/-- A column. The type is the text behind the name, modifiers included. -/
structure Column where
  name : String
  type : String
  deriving DecidableEq, Repr, Inhabited

namespace Column

/-- The type of a column that states none. -/
def defaultType : String := "VARCHAR"

end Column

/-- A table with its columns in order. -/
structure Table where
  name : String
  columns : List Column
  deriving DecidableEq, Repr, Inhabited

/-- A reference from one column to another. -/
structure Reference where
  fromTable : String
  fromColumn : String
  toTable : String
  toColumn : String
  deriving DecidableEq, Repr, Inhabited

/-- The tables and the references of a schema text. -/
structure Schema where
  tables : List Table
  references : List Reference
  deriving DecidableEq, Repr, Inhabited

namespace Schema

/-- The names of the tables in order. -/
def tableNames (s : Schema) : List String :=
  s.tables.map (·.name)

/-- The first table of the given name. -/
def table? (s : Schema) (name : String) : Option Table :=
  s.tables.find? (·.name == name)

end Schema

/-! ## The plain text

The plain form of a schema: a block for each table with a line for each column,
then a line for each reference. -/

/-- The line of a column inside its table. -/
def Column.print (c : Column) : String :=
  "  " ++ c.name ++ " " ++ c.type

/-- The lines of a table. -/
def Table.print (t : Table) : List String :=
  ("Table " ++ t.name ++ " \x7b") :: t.columns.map Column.print ++ ["\x7d"]

/-- The line of a reference. -/
def Reference.print (r : Reference) : String :=
  "Ref: " ++ r.fromTable ++ "." ++ r.fromColumn ++ " > " ++ r.toTable ++ "." ++ r.toColumn

/-- The text of a schema, its lines joined by line feeds. -/
def Schema.print (s : Schema) : String :=
  "\n".intercalate (s.tables.flatMap Table.print ++ s.references.map Reference.print)

end RequestAtlas
