import RequestAtlas.Fault
import RequestAtlas.Json.Shown
import RequestAtlas.Net.Exchange
import RequestAtlas.Text.Blank

/-!
# The source of schemas

The service that keeps the schema text of a project. A fetch either gives what
the service stores, which should be a text, or says in one sentence why there is
none.
-/

namespace RequestAtlas.Net

/-- Why a fetch gave nothing: with a message, or by a fault. -/
inductive FetchError where
  | failed (message : String)
  | fault (f : Fault)
  deriving DecidableEq, Repr

/-- The source of schemas at an address. -/
structure SchemaSource where
  base : String
  deriving DecidableEq, Repr

namespace SchemaSource

/-- The message when the service cannot be reached. -/
def unreachable : String :=
  "Network error: Unable to reach the server. Try using the direct DBML paste option."

/-- The message when the service gives no reason. -/
def noReason : String := "Failed to fetch project schema"

/-- The request for the schema of a project in an environment. The key is sent
when there is one. -/
def request (s : SchemaSource) (projectId environmentId apiKey : String) : Outgoing where
  method := .get
  url := s.base ++ "/v1/chart"
  form := [⟨"project-id", Text.trimString projectId⟩,
    ⟨"environment-id", Text.trimString environmentId⟩]
  contentType := some "application/json"
  authorization := if apiKey.isEmpty then none else some "API-KEY"
  apiKey := if apiKey.isEmpty then none else some apiKey

/-- The schema in a response that was understood. -/
def ofDocument : Json → Except FetchError Json
  | .obj fields =>
    let give (dbml : Json) : Except FetchError Json :=
      if fields.lookup "status" ≠ some (.str "OK") ∨ dbml.isEmpty then
        let description := (fields.lookup "description").getD .null
        .error (.failed (if description.isEmpty then noReason else description.shown))
      else match dbml with
        | .int _ | .float _ | .bool _ => .error (.fault .noLength)
        | v => .ok v
    match (fields.lookup "data").getD .null with
    | .obj data => give ((data.lookup "dbml").getD .null)
    | v => if v.isEmpty then give .null else .error (.fault .notObject)
  | _ => .error (.failed noReason)

variable [Json.OuterDepth]

/-- The schema in a response. -/
def ofResponse (r : Response) : Except FetchError Json :=
  if isError r.status then
    .error (.failed ("HTTP " ++ toString r.status ++ ": " ++ phrase r.status))
  else match r.document with
    | .ok v => ofDocument v
    | .error (.tooDeep container) =>
      .error (.fault (.tooDeep (Json.ReadError.tooDeep container).message))
    | .error _ => .error (.failed noReason)

/-- Fetches the schema of a project. -/
def fetch (s : SchemaSource) (projectId environmentId apiKey : String) (w : World) :
    Except FetchError Json × World :=
  match w.send (s.request projectId environmentId apiKey) with
  | (.error (.failed _), w) => (.error (.failed unreachable), w)
  | (.error (.fault f), w) | (.error (.refused f _), w) => (.error (.fault f), w)
  | (.ok r, w) => (ofResponse r, w)

end SchemaSource

end RequestAtlas.Net
