import RequestAtlas.Fault

/-!
# Failures of an import

What an operation of an import can fail with. The failures that the import
provides for have a message for the user; a fault has none.
-/

namespace RequestAtlas

/-- Why an operation of an import failed. -/
inductive Failure where
  | noContent
  | noTables
  | fetchFailed (message : String)
  | analysisFailed (message : String)
  | missingIds
  | noSchema
  | noSelection
  | nothingToImport
  | fault (f : Fault)
  deriving DecidableEq, Repr

namespace Failure

/-- The families of failures: an empty schema, a schema that could not be
fetched, an analysis that failed, an operation out of turn, and a fault. -/
inductive Family where
  | emptySchema
  | schemaFetch
  | analysis
  | flow
  | fault (f : Fault)
  deriving DecidableEq, Repr

/-- The family of a failure. -/
def family : Failure → Family
  | .noContent | .noTables => .emptySchema
  | .fetchFailed _ => .schemaFetch
  | .analysisFailed _ => .analysis
  | .missingIds | .noSchema | .noSelection | .nothingToImport => .flow
  | .fault f => .fault f

/-- The message of a failure; a fault has none. -/
def message? : Failure → Option String
  | .noContent => some "Please paste the DBML content"
  | .noTables => some "No tables found in the DBML content"
  | .fetchFailed message => some message
  | .analysisFailed message => some message
  | .missingIds => some "Project ID and Environment ID are required"
  | .noSchema => some "No schema loaded; fetch or paste DBML first"
  | .noSelection => some "Table selection is only available in the AI preview step"
  | .nothingToImport => some "Nothing to import yet; fetch or paste DBML first"
  | .fault _ => none

end Failure

end RequestAtlas
