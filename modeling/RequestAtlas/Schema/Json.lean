import RequestAtlas.Check.Scalar
import RequestAtlas.Schema.Basic

/-!
# Schemas as documents

The JSON documents of schemas, and the check of a table that comes as one.
-/

namespace RequestAtlas

open Check

/-- The document of a column. -/
def Column.toJson (c : Column) : Json :=
  .obj [("name", .str c.name), ("type", .str c.type)]

/-- The document of a table. -/
def Table.toJson (t : Table) : Json :=
  .obj [("name", .str t.name), ("columns", .arr (t.columns.map Column.toJson))]

/-- The document of a reference. -/
def Reference.toJson (r : Reference) : Json :=
  .obj [("fromTable", .str r.fromTable), ("fromColumn", .str r.fromColumn),
    ("toTable", .str r.toTable), ("toColumn", .str r.toColumn)]

/-- The document of a schema. -/
def Schema.toJson (s : Schema) : Json :=
  .obj [("tables", .arr (s.tables.map Table.toJson)),
    ("refs", .arr (s.references.map Reference.toJson))]

/-- Checks a column. -/
def Column.check : Json → Checked Column :=
  object fun fields =>
    Column.mk <$> required "name" string fields
      <*> withDefault "type" Column.defaultType string fields

/-- Checks a table. -/
def Table.check : Json → Checked Table :=
  object fun fields =>
    Table.mk <$> required "name" string fields
      <*> withDefault "columns" [] (list Column.check) fields

end RequestAtlas
