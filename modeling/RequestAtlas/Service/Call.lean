import RequestAtlas.Analysis.Check
import RequestAtlas.Analysis.Reply
import RequestAtlas.Check.Scalar
import RequestAtlas.Import.Session

/-!
# Calls of the service

What a client can ask of the service, once its request has been understood, and
the shapes of the documents that come with a request.
-/

namespace RequestAtlas

open Check

/-- Checks a request for an analysis. -/
def AnalysisRequest.check : Json → Checked AnalysisRequest :=
  object fun fields =>
    AnalysisRequest.mk <$> required "dbml" nonEmptyString fields
      <*> withDefault "project_id" "" string fields
      <*> withDefault "environment_id" "" string fields
      <*> withDefault "base_url" "" string fields
      <*> withDefault "ucode_api_key" "" string fields

namespace Service

/-- A request for a collection, made in one go. -/
structure Generation where
  text : String
  projectId : String := ""
  environmentId : String := ""
  apiKey : String := ""
  baseUrl : Option String := none
  deriving DecidableEq, Repr, Inhabited

namespace Generation

/-- Checks the fields of a request for a collection. -/
def checkFields (fields : Json.Fields) : Checked Generation :=
  Generation.mk <$> required "dbml" string fields
    <*> withDefault "project_id" "" string fields
    <*> withDefault "environment_id" "" string fields
    <*> withDefault "api_key" "" string fields
    <*> withDefault "base_url" none (nullable string) fields

/-- What the requests of the collection are addressed to. -/
def target? (g : Generation) (around : Surroundings) : Option Target :=
  (BaseUrl.ofString? (BaseUrl.resolve around.fallbackUrl g.baseUrl)).map fun base =>
    { base
      projectId := g.projectId
      environmentId := g.environmentId
      apiKey := g.apiKey
      now := around.now }

end Generation

/-- How an organized collection is arranged. -/
structure Arrangement where
  analysis : Analysis
  selection : Option (List String) := none
  deriving DecidableEq, Repr, Inhabited

/-- Checks the fields that arrange a collection. -/
def Arrangement.checkFields (fields : Json.Fields) : Checked Arrangement :=
  Arrangement.mk <$> required "analysis" Analysis.check fields
    <*> withDefault "selected_tables" none (nullable (list string)) fields

/-- A command to an import session. -/
inductive Command where
  | state
  | fetch
  | paste (text : String)
  | fallBack
  | rows
  | edit (e : Selection.Edit)
  | collection
  | delete
  deriving DecidableEq, Repr

/-- A call of the service. -/
inductive Call where
  | health
  | parse (text : String)
  | standard (g : Generation)
  | organized (g : Generation) (a : Arrangement)
  | analyze (r : AnalysisRequest)
  | create (config : ImportConfig)
  | session (id : String) (c : Command)
  deriving DecidableEq, Repr

namespace Call

/-- Checks a call for the tables of a text. -/
def checkParse : Json → Checked Call :=
  object fun fields => .parse <$> required "dbml" string fields

/-- Checks a call for a standard collection. -/
def checkStandard : Json → Checked Call :=
  object fun fields => .standard <$> Generation.checkFields fields

/-- Checks a call for an organized collection. -/
def checkOrganized : Json → Checked Call :=
  object fun fields =>
    .organized <$> Generation.checkFields fields <*> Arrangement.checkFields fields

/-- Checks a call that pastes a text into a session. -/
def checkPaste (id : String) : Json → Checked Call :=
  object fun fields => (.session id <| .paste ·) <$> required "dbml" string fields

/-- Checks a call that turns a table of a session over. -/
def checkToggle (id : String) : Json → Checked Call :=
  object fun fields =>
    (.session id <| .edit <| .toggle ·) <$> required "table_name" string fields

/-- Checks a call that sets the search text of a session. -/
def checkFilter (id : String) : Json → Checked Call :=
  object fun fields =>
    (.session id <| .edit <| .setFilter ·) <$> withDefault "search" "" string fields

end Call

end Service

end RequestAtlas
