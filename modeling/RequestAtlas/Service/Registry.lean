import RequestAtlas.Collection.Json
import RequestAtlas.Net.Chat
import RequestAtlas.Schema.Json
import RequestAtlas.Service.Answer
import RequestAtlas.Service.Call
import RequestAtlas.Settings
import RequestAtlas.Text.Ascii

/-!
# The service

The sessions that exist, and the answer to every call. A call to a session sees
that session and the outside world only, and leaves the session changed or ends
it; so calls to different sessions do not meet. Handing out a collection ends
its session.
-/

namespace RequestAtlas

/-- What a service answers from: its settings, the time, and the id for a session
that is made now. -/
structure Environment where
  settings : Settings
  now : Timestamp
  newId : String
  deriving Repr, Inhabited

namespace Environment

/-- The surroundings of an import. -/
def surroundings (e : Environment) : Surroundings :=
  ⟨e.settings.sourceUrl, e.now⟩

/-- The chat service. -/
def chat (e : Environment) : Net.ChatService :=
  .atHost e.settings.chatHost e.settings.chatModel

/-- The source of schemas for a given base address. -/
def source (e : Environment) (baseUrl : Option String) : Net.SchemaSource :=
  ⟨BaseUrl.resolve e.settings.sourceUrl baseUrl⟩

end Environment

/-- The sessions of a service. -/
structure Service where
  sessions : List Session := []
  deriving DecidableEq, Repr, Inhabited

namespace Service

/-! ## Calls to a session -/

/-- The analyzer that answers from what the chat service gives, and the world
behind its question; without a question the world stays as it is. -/
def consult (e : Environment) (question : Option AnalysisRequest) (w : Net.World) :
    Option Analyzer × Net.World :=
  if e.settings.analysisEnabled then
    match question with
    | some request =>
      let (answer, w) := e.chat.analyze request w
      (some fun _ => answer, w)
    | none => (some fun _ => .error (.failed ""), w)
  else (none, w)

/-- Loads a text into a session. -/
def loadText (e : Environment) (s : Session) (text : String) (w : Net.World) :
    (Session × Except Failure Unit) × Net.World :=
  let (analyzer, w) := consult e (s.question? text) w
  (s.load e.surroundings text analyzer, w)

/-- Fetches a text and loads it into a session. -/
def fetchText (e : Environment) (s : Session) (w : Net.World) :
    (Session × Except Failure Unit) × Net.World :=
  if s.config.hasIds then
    let trimmed := Text.trimString
    let (fetched, w) := (e.source s.config.baseUrl).fetch (trimmed s.config.projectId)
      (trimmed s.config.environmentId) (trimmed s.config.apiKey) w
    match fetched with
    | .ok (.str text) =>
      let (analyzer, w) := consult e (s.question? text) w
      (s.fetch e.surroundings fetched analyzer, w)
    | _ => (s.fetch e.surroundings fetched none, w)
  else (s.fetch e.surroundings (.error (.failed "")) none, w)

/-- The answer to a command that loads: the state of the session, or why the
load failed. A failed analysis is reported with the hint on the session. -/
def loadAnswer (s : Session) : Except Failure Unit → Answer
  | .ok () => .ok s.state.toJson
  | .error f =>
    match f.family with
    | .emptySchema | .flow => .refuse 400 (f.message?.getD "")
    | .schemaFetch => .refuse 502 (f.message?.getD "")
    | .analysis => .refuse 502 (s.error.getD "")
    | .fault _ => .internalError

/-- The answer when a command comes out of turn. -/
def conflict (f : Failure) : Answer :=
  match f.message? with
  | some message => .refuse 409 message
  | none => .internalError

/-- The answer to a command, with the session behind it; a session that has
ended is none. -/
def command (e : Environment) (s : Session) (w : Net.World) :
    Command → Answer × Option Session × Net.World
  | .state => (.ok s.state.toJson, some s, w)
  | .fetch =>
    let ((s, outcome), w) := fetchText e s w
    (loadAnswer s outcome, some s, w)
  | .paste text =>
    let ((s, outcome), w) := loadText e s text w
    (loadAnswer s outcome, some s, w)
  | .fallBack =>
    let (s, outcome) := s.fallBack e.surroundings
    (loadAnswer s outcome, some s, w)
  | .rows =>
    match s.rows with
    | .ok rows => (.ok (.arr (rows.map Session.Row.toJson)), some s, w)
    | .error f => (conflict f, some s, w)
  | .edit edit =>
    match s.edit edit with
    | (s, .ok ()) => (.ok s.state.toJson, some s, w)
    | (s, .error f) => (conflict f, some s, w)
  | .collection =>
    match s.handOut Json.outerLimits e.surroundings with
    | .ok c => (.ok c.toJson, none, w)
    | .error f => (conflict f, some s, w)
  | .delete =>
    (.ok (.obj [("message", .str ("Import session '" ++ s.id ++ "' reset."))]), none, w)

/-! ## The registry -/

/-- The session with an id. -/
def session? (service : Service) (id : String) : Option Session :=
  service.sessions.find? (·.id == id)

/-- The service with the session of an id replaced, or ended. -/
def put (service : Service) (id : String) (s : Option Session) : Service :=
  ⟨service.sessions.flatMap fun old => if old.id == id then s.toList else [old]⟩

/-- The id with the number `n`. -/
def numberedId (n : Nat) : String :=
  String.ofList (Text.hexPlaces 32 n)

/-- Makes a session, in place of one with the same id. -/
def create (service : Service) (id : String) (config : ImportConfig) : Answer × Service :=
  let s := Session.new id config
  (⟨201, .document s.state.toJson⟩, ⟨service.sessions.filter (·.id != id) ++ [s]⟩)

/-! ## Calls without a session -/

/-- What is said of a service that could be reached, or could not. -/
def reached {α : Type} (r : Except Net.SendError α) (up : α → Json.Fields) :
    Except Fault (Bool × Json) :=
  match r with
  | .ok a => .ok (true, .obj (("status", .str "up") :: up a))
  | .error (.failed message) =>
    .ok (false, .obj [("status", .str "down"), ("error", .str message)])
  | .error (.fault f) | .error (.refused f _) => .error f

/-- Whether the chat service is up. -/
def chatHealth (e : Environment) (w : Net.World) : Except Fault (Bool × Json) × Net.World :=
  let s := e.settings
  let (r, w) := (⟨s.chatHost, s.chatModel⟩ : Net.ChatService).health w
  (reached r fun model => [("model", .str model), ("url", .str s.chatHost)], w)

/-- Whether the source of schemas is up: any response says so. -/
def sourceHealth (e : Environment) (w : Net.World) : Except Fault (Bool × Json) × Net.World :=
  let url := e.settings.sourceUrl
  let (r, w) := w.send { method := .get, url }
  (reached r fun _ => [("url", .str url)], w)

/-- The answer to a call for the health of the service. The source is asked only if
the chat service could be asked. -/
def health (e : Environment) (w : Net.World) : Answer × Net.World :=
  match chatHealth e w with
  | (.error _, w) => (.internalError, w)
  | (.ok (chatUp, chat), w) =>
    match sourceHealth e w with
    | (.error _, w) => (.internalError, w)
    | (.ok (sourceUp, source), w) =>
      (.ok (.obj [("status", .str (if chatUp && sourceUp then "ok" else "degraded")),
        ("ai_analysis_enabled", .bool e.settings.analysisEnabled),
        ("services", .obj [("ollama", chat), ("ucode", source)])]), w)

/-- The answer to a call for a collection. -/
def generate (e : Environment) (g : Generation) (build : Target → Schema → Collection) :
    Answer :=
  let schema := Schema.read g.text
  if schema.tables.isEmpty then .refuse 400 (Failure.noTables.message?.getD "")
  else match g.target? e.surroundings with
    | some target => .ok (build target schema).toJson
    | none => .internalError

/-- The answer to a call for an analysis. -/
def analyze (e : Environment) (request : AnalysisRequest) (w : Net.World) :
    Answer × Net.World :=
  if e.settings.analysisEnabled then
    match e.chat.analyze request w with
    | (.ok answer, w) => (.okFree answer.toJson, w)
    | (.error (.failed message), w) => (.refuse 502 message, w)
    | (.error (.fault _), w) => (.internalError, w)
  else (.refuse 400 "AI analysis is disabled. Set AI_ANALYSIS_ENABLED to use it.", w)

/-- The answer to a call, with the service and the world behind it. -/
def answer (e : Environment) (service : Service) (w : Net.World) :
    Call → Answer × Service × Net.World
  | .health =>
    let (a, w) := health e w
    (a, service, w)
  | .parse text => (.ok (Schema.read text).toJson, service, w)
  | .standard g => (generate e g Target.standard, service, w)
  | .organized g a =>
    (generate e g fun t schema => t.organized schema a.analysis a.selection, service, w)
  | .analyze request =>
    let (a, w) := analyze e request w
    (a, service, w)
  | .create config =>
    let (a, service) := service.create e.newId config
    (a, service, w)
  | .session id c =>
    match service.session? id with
    | none => (.noSession id, service, w)
    | some s =>
      let (a, s, w) := command e s w c
      (a, service.put id s, w)

end Service

end RequestAtlas
