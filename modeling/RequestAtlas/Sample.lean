import RequestAtlas.Json.Value
import RequestAtlas.Schema.Basic
import RequestAtlas.Text.Case
import RequestAtlas.Text.Search
import RequestAtlas.Timestamp

/-!
# Sample values

An example value for a column, chosen by its type and its name, and the example
body of a table: an object with one field for every column name. The first rule
that fits decides; the case of a type does not matter.
-/

namespace RequestAtlas.Sample

/-- The identifier whose digits are all zero. -/
def nilUuid : String := "00000000-0000-0000-0000-000000000000"

/-- The variable that stands for an identifier. -/
def guidVariable : String := "\x7b\x7bguid\x7d\x7d"

/-- The name of the column that identifies a row. -/
def guidField : String := "guid"

/-- The example value of a column. -/
def value (now : Timestamp) (type field : String) : Json :=
  let kind := Text.upper type.toList
  let mentions (word : String) : Bool := Text.contains word.toList kind
  if field = guidField then .str guidVariable
  else if mentions "UUID" then
    .str (if Text.endsWith "_id".toList field.toList then guidVariable else nilUuid)
  else if mentions "FLOAT" || mentions "INT" || mentions "NUMERIC" then .int 0
  else if mentions "BOOL" then .bool false
  else if mentions "TIMESTAMP" || mentions "DATE" then .str now.text
  else if mentions "TEXT[]" then .arr [.str "value"]
  else .str ""

/-- The example body of a table without the columns named in `excluded`. A name
that several columns share keeps its first place and takes the value of the
last column. -/
def body (now : Timestamp) (table : Table) (excluded : List String) : Json.Fields :=
  .ofPairs ((table.columns.filter fun c => !excluded.contains c.name).map
    fun c => (c.name, value now c.type c.name))

end RequestAtlas.Sample
