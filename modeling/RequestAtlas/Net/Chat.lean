import RequestAtlas.Analysis.Reply
import RequestAtlas.Net.Exchange
import RequestAtlas.Text.Blank

/-!
# The chat service

The service that runs language models. A chat is tried several times, with a
wait between two attempts that doubles each time. An attempt that fails for a
reason that may pass is tried again; a reply of a shape that nothing provides
for ends the chat at once.
-/

namespace RequestAtlas.Net

/-- The chat service: where it is and which model it runs. -/
structure ChatService where
  host : String
  model : String
  deriving DecidableEq, Repr

namespace ChatService

/-- The service at a host, without slashes at its end. -/
def atHost (host model : String) : ChatService :=
  ⟨Text.dropEndSlashes host, model⟩

/-- Whether the service can be reached: its model, or why not. -/
def health (c : ChatService) (w : World) : Except SendError String × World :=
  match w.send { method := .get, url := c.host ++ "/api/version" } with
  | (.error e, w) => (.error e, w)
  | (.ok r, w) =>
    match r.failure? with
    | some message => (.error (.failed message), w)
    | none => (.ok c.model, w)

/-- The body of a chat request. -/
def payload (c : ChatService) (messages : Json) (jsonOnly : Bool) : Json :=
  .obj <| [("model", .str c.model), ("messages", messages), ("stream", .bool false),
    ("options", .obj [("num_ctx", .int 8192), ("temperature", .float (.ofDecimal false 2 (-1)))])]
    ++ if jsonOnly then [("format", .str "json")] else []

/-- What an attempt gave. -/
inductive Attempt where
  | answered (text : String)
  /-- A failure after which the chat is tried again. -/
  | retry (message : String)
  | fault (f : Fault)
  deriving DecidableEq, Repr

/-- The field of a document, or why the attempt has none. -/
def field (key : String) : Json → Except Attempt Json
  | .obj fields =>
    match fields.lookup key with
    | some v => .ok v
    | none => .error (.retry ("'" ++ key ++ "'"))
  | _ => .error (.fault .noFields)

/-- The answer in a document. -/
def ofDocument (v : Json) : Attempt :=
  match (field "message" v).bind (field "content") with
  | .error a => a
  | .ok (.str s) => .answered (Text.trimString s)
  | .ok _ => .fault .notText

/-- The answer in a response. -/
def ofResponse [Json.OuterDepth] (r : Response) : Attempt :=
  match r.failure? with
  | some message => .retry message
  | none =>
    match r.document with
    | .ok v => ofDocument v
    | .error (.tooDeep container) =>
      .fault (.tooDeep (Json.ReadError.tooDeep container).message)
    | .error e => .retry e.message

/-- The request of an attempt. -/
def request (c : ChatService) (body : Json) : Outgoing where
  method := .post
  url := c.host ++ "/api/chat"
  contentType := some "application/json"
  body := some body

variable [Json.OuterDepth]

/-- Makes one attempt. -/
def attempt (c : ChatService) (body : Json) (w : World) : Attempt × World :=
  match w.send (c.request body) with
  | (.error (.failed message), w) | (.error (.refused _ message), w) => (.retry message, w)
  | (.error (.fault f), w) => (.fault f, w)
  | (.ok r, w) => (ofResponse r, w)

/-- The message of a chat that failed. -/
def failureMessage (attempts : Int) (last : Option String) : String :=
  "Ollama chat failed after " ++ toString attempts ++ " attempts: " ++ last.getD "None"

/-- Makes the `number`-th attempt and those after it; `left` further ones are
made at most. -/
def attemptFrom (c : ChatService) (body : Json) (number : Nat) :
    (left : Nat) → World → Attempt × World
  | 0, w => c.attempt body w
  | left + 1, w =>
    match c.attempt body w with
    | (.retry _, w) => attemptFrom c body (number + 1) left (w.wait (Nat.pow 2 number))
    | result => result

/-- Chats, with at most `attempts` attempts. -/
def chat (c : ChatService) (messages : Json) (jsonOnly : Bool) (attempts : Int) (w : World) :
    Except AnalysisError String × World :=
  match attempts.toNat with
  | 0 => (.error (.failed (failureMessage attempts none)), w)
  | left + 1 =>
    match c.attemptFrom (c.payload messages jsonOnly) 1 left w with
    | (.answered text, w) => (.ok text, w)
    | (.retry message, w) => (.error (.failed (failureMessage attempts (some message))), w)
    | (.fault f, w) => (.error (.fault f), w)

/-- The number of attempts when none is given. -/
def defaultAttempts : Int := 3

/-- Asks the model for an analysis. -/
def analyze (c : ChatService) (request : AnalysisRequest) (w : World) :
    Except AnalysisError AnalysisAnswer × World :=
  let (outcome, w) := c.chat (.arr request.messages) true defaultAttempts w
  (AnalysisAnswer.ofChat c.model outcome, w)

end ChatService

end RequestAtlas.Net
