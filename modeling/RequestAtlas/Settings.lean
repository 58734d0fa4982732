import RequestAtlas.Check.Scalar
import RequestAtlas.Text.Search

/-!
# Settings

The settings of the service. Each may be given by a variable of the same name in
the environment, in either case; values are checked like any other input.
-/

namespace RequestAtlas

/-- The settings of the service. -/
structure Settings where
  chatHost : String := "http://localhost:11434"
  chatModel : String := "qwen2.5-coder:3b"
  chatTimeout : Int := 120
  analysisEnabled : Bool := true
  sourceUrl : String := "https://api.admin.u-code.io"
  sourceTimeout : Int := 30
  apiHost : String := "0.0.0.0"
  apiPort : Int := 8000
  corsOrigins : String := "http://localhost:5173"
  logLevel : String := "INFO"
  deriving DecidableEq, Repr, Inhabited

namespace Settings

open Check

/-- The settings given by an object; what it does not give keeps its value. -/
def override (s : Settings) (fields : Json.Fields) : Checked Settings :=
  Settings.mk <$> withDefault "OLLAMA_HOST" s.chatHost string fields
    <*> withDefault "OLLAMA_MODEL" s.chatModel string fields
    <*> withDefault "OLLAMA_TIMEOUT_SECONDS" s.chatTimeout int fields
    <*> withDefault "AI_ANALYSIS_ENABLED" s.analysisEnabled bool fields
    <*> withDefault "UCODE_BASE_URL" s.sourceUrl string fields
    <*> withDefault "UCODE_TIMEOUT_SECONDS" s.sourceTimeout int fields
    <*> withDefault "API_HOST" s.apiHost string fields
    <*> withDefault "API_PORT" s.apiPort int fields
    <*> withDefault "CORS_ORIGINS" s.corsOrigins string fields
    <*> withDefault "LOG_LEVEL" s.logLevel string fields

/-- The settings of an environment. Of variables whose names differ in case only
the last counts. -/
def ofEnvironment (environment : List (String × String)) : Checked Settings :=
  ({} : Settings).override <| Json.Fields.ofPairs <|
    environment.map fun (name, value) =>
      (String.ofList (name.toList.map Char.toUpper), .str value)

/-- The origins that browsers may call from: the parts of the list between its
commas, trimmed, without the empty ones. -/
def corsOriginList (s : Settings) : List String :=
  (((Text.splitAt ',' s.corsOrigins.toList).map Text.trim).filter (!·.isEmpty)).map
    String.ofList

/-- The document of the settings. -/
def toJson (s : Settings) : Json :=
  .obj [("OLLAMA_HOST", .str s.chatHost), ("OLLAMA_MODEL", .str s.chatModel),
    ("OLLAMA_TIMEOUT_SECONDS", .int s.chatTimeout),
    ("AI_ANALYSIS_ENABLED", .bool s.analysisEnabled), ("UCODE_BASE_URL", .str s.sourceUrl),
    ("UCODE_TIMEOUT_SECONDS", .int s.sourceTimeout), ("API_HOST", .str s.apiHost),
    ("API_PORT", .int s.apiPort), ("CORS_ORIGINS", .str s.corsOrigins),
    ("LOG_LEVEL", .str s.logLevel), ("cors_origin_list", .strings s.corsOriginList)]

end Settings

end RequestAtlas
