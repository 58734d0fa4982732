import RequestAtlas.Analysis.Check
import RequestAtlas.Analysis.Prompt
import RequestAtlas.Fault
import RequestAtlas.Json.Reader
import RequestAtlas.Text.Blank
import RequestAtlas.Text.Search

/-!
# Replies of the model

A model is asked for an analysis as JSON and may answer with chatter and a
fenced block instead. The reply is read as it is first; when it is not JSON, the
first fenced block is read, and a block marked as JSON goes before any other.
-/

namespace RequestAtlas

/-- What opens a block that is marked as JSON. -/
def Reply.jsonFence : List Char := "```json".toList

/-- What opens and closes a block. -/
def Reply.fence : List Char := "```".toList

/-- The text in front of the first fence; all of it when there is none. -/
def Reply.beforeFence (s : List Char) : List Char :=
  match Text.cut? fence s with
  | some (before, _) => before
  | none => s

/-- The content of the first fenced block, or all of a text without one, in
either case trimmed. -/
def Reply.unfenced (s : List Char) : List Char :=
  Text.trim <|
    match Text.cut? jsonFence s with
    | some (_, rest) => beforeFence rest
    | none =>
      match Text.cut? fence s with
      | some (_, rest) => beforeFence rest
      | none => s

/-- The content of the block in a reply. -/
def Reply.content (reply : String) : String :=
  String.ofList (unfenced reply.toList)

/-- Why there is no analysis: with a message, or by a fault. -/
inductive AnalysisError where
  | failed (message : String)
  | fault (f : Fault)
  deriving DecidableEq, Repr

/-- The failure of an analysis whose document could not be read: a malformed one is
provided for, nothing else is. -/
def AnalysisError.ofRead (e : Json.ReadError) : AnalysisError :=
  match e with
  | .malformed _ _ => .failed "AI returned invalid JSON"
  | .longInteger _ | .noText _ => .fault .longInteger
  | .tooDeep _ => .fault (.tooDeep e.message)

/-- The document in a reply. -/
def Reply.document [Json.OuterDepth] (reply : String) : Except AnalysisError Json :=
  match Json.read reply with
  | .error (.malformed _ _) => (Json.read (content reply)).mapError .ofRead
  | r => r.mapError .ofRead

/-- The analysis in a reply. -/
def Analysis.ofReply [Json.OuterDepth] (reply : String) : Except AnalysisError Analysis :=
  match Reply.document reply with
  | .error e => .error e
  | .ok (.obj fields) =>
    match Analysis.check (.obj fields) with
    | .valid a => .ok a
    | .invalid issues =>
      .error (.failed ("AI analysis has an unexpected shape: " ++ toString issues.length
        ++ " error(s)"))
  | .ok _ => .error (.failed "AI returned invalid JSON")

/-- What an analysis is asked about. -/
structure AnalysisRequest where
  text : String
  projectId : String := ""
  environmentId : String := ""
  baseUrl : String := ""
  apiKey : String := ""
  deriving DecidableEq, Repr, Inhabited

/-- An analysis and the model that gave it. -/
structure AnalysisAnswer where
  analysis : Analysis
  model : String
  deriving DecidableEq, Repr, Inhabited

namespace AnalysisAnswer

/-- The name of the service that runs the models. -/
def provider : String := "ollama"

/-- The document of an answer. -/
def toJson (a : AnalysisAnswer) : Json :=
  .obj [("analysis", a.analysis.toJson), ("model", .str a.model), ("provider", .str provider)]

end AnalysisAnswer

namespace AnalysisRequest

/-- The document of a request. -/
def toJson (r : AnalysisRequest) : Json :=
  .obj [("dbml", .str r.text), ("project_id", .str r.projectId),
    ("environment_id", .str r.environmentId), ("base_url", .str r.baseUrl),
    ("ucode_api_key", .str r.apiKey)]

/-- The messages that put the request to a model. -/
def messages (r : AnalysisRequest) : List Json :=
  [.obj [("role", .str "system"), ("content", .str Analysis.instructions)],
    .obj [("role", .str "user"), ("content", .str (Analysis.question r.text))]]

end AnalysisRequest

/-- The answer of a model, from what the chat with it gave: a reply, the message with
which it failed, or a fault. A chat whose document was nested too deeply counts as
failed. -/
def AnalysisAnswer.ofChat [Json.OuterDepth] (model : String) :
    Except AnalysisError String → Except AnalysisError AnalysisAnswer
  | .error (.failed message) | .error (.fault (.tooDeep message)) =>
    .error (.failed ("AI analysis failed: " ++ message))
  | .error (.fault f) => .error (.fault f)
  | .ok reply => (Analysis.ofReply reply).map (⟨·, model⟩)

end RequestAtlas
