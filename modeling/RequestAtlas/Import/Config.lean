import RequestAtlas.Analysis.Reply
import RequestAtlas.Check.Scalar
import RequestAtlas.Collection.Requests
import RequestAtlas.Text.Blank
import RequestAtlas.Timestamp
import RequestAtlas.Url.Basic

/-!
# Configuration of an import

What an import is made for: the project with its environment, the key and the base
address of its requests, and whether the analysis is wanted. A configuration is
checked when an import is made. Later its fields may be replaced one by one, by
values that are kept as they are given.
-/

namespace RequestAtlas

open Check

/-- A switch: whether it is on, and what it is shown as. The two differ when it was
set by a word, since a word is something whatever it says. -/
structure Switch where
  isOn : Bool
  shown : Bool := isOn
  deriving DecidableEq, Repr, Inhabited

/-- Checks a switch that is kept as it is given. -/
def Switch.check (v : Json) : Checked Switch :=
  (fun shown => ⟨!v.isEmpty, shown⟩) <$> bool v

/-- What an import is made for. -/
structure ImportConfig where
  projectId : String := ""
  environmentId : String := ""
  apiKey : String := ""
  baseUrl : Option String := none
  aiEnabled : Switch := { isOn := false }
  deriving DecidableEq, Repr, Inhabited

/-- What lies outside an import: the base address to fall back on, and the
time. -/
structure Surroundings where
  fallbackUrl : String
  now : Timestamp
  deriving DecidableEq, Repr, Inhabited

namespace ImportConfig

/-! ## Documents -/

/-- Checks the configuration of an import. -/
def check : Json → Checked ImportConfig :=
  object fun fields =>
    ImportConfig.mk <$> withDefault "project_id" "" string fields
      <*> withDefault "environment_id" "" string fields
      <*> withDefault "api_key" "" string fields
      <*> withDefault "base_url" none (nullable string) fields
      <*> ((fun b => { isOn := b }) <$> withDefault "ai_enabled" false bool fields)

/-- The text under a key, or else `old`. -/
def textOr (old key : String) (fields : Json.Fields) : String :=
  match fields.lookup key with
  | some (.str s) => s
  | _ => old

/-- The configuration with the fields of a document in place of its own. A switch has
to be one that can be shown. -/
def replace (c : ImportConfig) (fields : Json.Fields) : Checked ImportConfig :=
  let baseUrl := match fields.lookup "base_url" with
    | some (.str s) => some s
    | some _ => none
    | none => c.baseUrl
  ImportConfig.mk (textOr c.projectId "project_id" fields)
      (textOr c.environmentId "environment_id" fields) (textOr c.apiKey "api_key" fields) baseUrl
    <$> withDefault "ai_enabled" c.aiEnabled Switch.check fields

/-! ## What a configuration asks for -/

/-- What the requests of the collection are addressed to; none when the base
address is refused. -/
def target? (c : ImportConfig) (around : Surroundings) : Option Target :=
  (BaseUrl.ofString? (BaseUrl.resolve around.fallbackUrl c.baseUrl)).map fun base =>
    { base
      projectId := Text.trimString c.projectId
      environmentId := Text.trimString c.environmentId
      apiKey := Text.trimString c.apiKey
      now := around.now }

/-- The request for the analysis of a schema text. -/
def analysisRequest (c : ImportConfig) (text : String) : AnalysisRequest where
  text := text
  projectId := Text.trimString c.projectId
  environmentId := Text.trimString c.environmentId
  baseUrl := c.baseUrl.getD ""
  apiKey := Text.trimString c.apiKey

/-- Whether the ids that a fetch needs are given. -/
def hasIds (c : ImportConfig) : Bool :=
  !(Text.trimString c.projectId).isEmpty && !(Text.trimString c.environmentId).isEmpty

end ImportConfig

end RequestAtlas
