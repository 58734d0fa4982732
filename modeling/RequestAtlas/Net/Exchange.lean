import RequestAtlas.Collection.Basic
import RequestAtlas.Json.Reader
import RequestAtlas.Net.Redirect
import RequestAtlas.Net.Status

/-!
# Exchanges with other services

The outside world as a value: the replies that are still to come, the requests
that have been sent, and the waits between them. Sending a request takes the
next reply; with no reply left the connection fails. A request whose address,
headers or body cannot be written leaves no trace.
-/

namespace RequestAtlas.Net

/-- What comes back for a request: a response, or a failure of the connection
with its message. A response has a status without a phrase of its own; of its
headers it has the further address, and its body is what the octets say in UTF-8. -/
inductive Reply where
  | response (status : Nat) (location : Option String) (body : String)
  | failure (message : String)
  deriving DecidableEq, Repr, Inhabited

/-- A request to be sent. The fields of a form, if there are any, take the place of
the query. -/
structure Outgoing where
  method : Method
  url : String
  form : List Parameter := []
  contentType : Option String := none
  authorization : Option String := none
  apiKey : Option String := none
  body : Option Json := none
  deriving DecidableEq, Repr, Inhabited

/-- A request as it was sent. -/
structure Sent where
  method : Method
  url : String
  contentType : Option String := none
  authorization : Option String := none
  apiKey : Option String := none
  body : Option Json := none
  deriving DecidableEq, Repr, Inhabited

/-- The outside world: the replies to come, the requests sent and the seconds
waited so far, both in order. -/
structure World where
  replies : List Reply := []
  sent : List Sent := []
  waits : List Nat := []
  deriving DecidableEq, Repr, Inhabited

/-- A response to a request. -/
structure Response where
  url : String
  status : Nat
  location : Option String
  body : String
  deriving DecidableEq, Repr, Inhabited

/-! ## Sending -/

/-- The message when nothing is sent to addresses of a kind. -/
def noScheme : String := "Request URL is missing an 'http://' or 'https://' protocol."

/-- The message when the body of a request has no text in the standard. -/
def notStandard : String := "Out of range float values are not JSON compliant"

/-- The address a request goes to, or why it cannot be sent. The address is looked at
first, then the headers, the form, the body, and last where the address leads. -/
def Outgoing.address (r : Outgoing) : Except SendError Address := do
  let a ← addressOrFault (Address.read r.url)
  let a ← addressOrFault (a.below [] [])
  r.apiKey.forM fun key => checkHeader key.toList
  let a ← if r.form.isEmpty then .ok a else addressOrFault (a.withForm r.form)
  unless r.body.all Json.isStandard do
    throw (.refused .notFinite notStandard)
  checkHeader a.authority.hostText
  unless a.isSendable do
    throw (.failed noScheme)
  a.checkHost
  return a

/-- The message of a connection that fails for want of a reply. -/
def noReply : String := "no scripted response"

/-- What a reply to a request at an address gives. Only a redirect is asked for its
further address. -/
def Reply.outcome (a : Address) : Reply → Except SendError Response
  | .failure message => .error (.failed message)
  | .response status location body => do
    if redirectCodes.contains status then
      location.forM a.checkFurther
    return ⟨a.text, status, location, body⟩

/-- Sends a request and takes its reply. -/
def World.send (w : World) (r : Outgoing) : Except SendError Response × World :=
  match r.address with
  | .error e => (.error e, w)
  | .ok a =>
    let request : Sent :=
      { method := r.method
        url := a.text
        contentType := r.contentType
        authorization := a.credentials?.or r.authorization
        apiKey := r.apiKey
        body := r.body }
    let sent := w.sent ++ [request]
    match w.replies with
    | [] => (.error (.failed noReply), { w with sent })
    | reply :: replies => (reply.outcome a, { w with sent, replies })

/-- Waits for some seconds. -/
def World.wait (w : World) (seconds : Nat) : World :=
  { w with waits := w.waits ++ [seconds] }

namespace Response

/-- The document in the body of a response. -/
def document [Json.OuterDepth] (r : Response) : Except Json.ReadError Json :=
  Json.readOctets r.body

/-- The line that names the further address of a redirect. -/
def locationLine (r : Response) : String :=
  match r.location with
  | some l =>
    if redirectCodes.contains r.status then "\nRedirect location: '" ++ l ++ "'" else ""
  | none => ""

/-- Why a response is no success. -/
def failure? (r : Response) : Option String :=
  if isSuccess r.status then none
  else some <|
    kindName r.status ++ " '" ++ toString r.status ++ " " ++ phrase r.status
      ++ "' for url '" ++ r.url ++ "'" ++ r.locationLine
      ++ "\nFor more information check: "
      ++ "https://developer.mozilla.org/en-US/docs/Web/HTTP/Status/" ++ toString r.status

end Response

end RequestAtlas.Net
