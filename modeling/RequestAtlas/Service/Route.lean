import RequestAtlas.Json.Reader
import RequestAtlas.Net.Address.Basic
import RequestAtlas.Service.Answer
import RequestAtlas.Service.Call

/-!
# Routes

From a request to the call it makes. A path belongs to a route or to none; a
route knows some methods; and a call with a document checks it before anything
else is looked at. A path with slashes at its end leads on to the path without
them, when a route has that one.
-/

namespace RequestAtlas.Service

/-- A request to the service. -/
structure HttpRequest where
  method : String
  path : String
  body : Option String := none
  deriving DecidableEq, Repr, Inhabited

/-- What a method of a route asks for: a call, or one that is read from the
document of the request. -/
inductive Endpoint where
  | plain (call : Call)
  | withDocument (check : Json → Check.Checked Call)

/-! ## Paths -/

/-- The scheme and the authority that the service goes by. -/
def home : List Char × List Char := ("http".toList, "localhost".toList)

/-- Why a request does not reach the service. -/
inductive DeliveryFlaw where
  /-- It has no address. -/
  | noAddress
  /-- No port goes with the scheme of its address. -/
  | noPort
  /-- Its host is a literal, in which the port is looked for at the first colon. -/
  | hostLiteral
  /-- It asks for a connection that stays open. -/
  | upgrade
  deriving DecidableEq, Repr

/-- The schemes of requests that are answered once. -/
def plainSchemes : List (List Char) := ["http".toList, "https".toList]

/-- The schemes of requests for a connection that stays open. -/
def openSchemes : List (List Char) := ["ws".toList, "wss".toList]

/-- The address that a text says below that of the service. -/
def servedAddress (address : String) : Except DeliveryFlaw Net.Address := do
  let a ← (Net.Address.read address).mapError fun _ => .noAddress
  let a ← (a.below home.1 home.2).mapError fun _ => .noAddress
  unless (plainSchemes ++ openSchemes).contains a.scheme do
    throw .noPort
  if a.authority.host.contains ':' then
    throw .hostLiteral
  if openSchemes.contains a.scheme then
    throw .upgrade
  return a

/-- The path that an address asks the service for. It is decoded once on the way to
the service and once more when it arrives. -/
def servedPath (address : String) : Except DeliveryFlaw (List Char) := do
  let a ← servedAddress address
  let path := if a.path.isEmpty then ['/'] else a.path
  return Text.percentDecode (Text.percentDecode path)

/-- The segments of a path behind its first slash. -/
def segments (path : List Char) : List String :=
  ((Text.splitAt '/' path).drop 1).map String.ofList

/-- The segments without a line end that the last one ends with. -/
def withoutLineEnd (segments : List String) : List String :=
  match segments.getLast? with
  | some last =>
    if last.endsWith "\n" then segments.dropLast ++ [(last.dropEnd 1).toString] else segments
  | none => []

/-- The address that a path leads on to. What would end the path in it, or would be
decoded there, is encoded. -/
def furtherAddress (path : List Char) : String :=
  let keep (c : Char) : Bool :=
    Text.isUnreserved c || ":/=@[]!$&'()*+,;".toList.contains c
  String.ofList <|
    home.1 ++ "://".toList ++ home.2
      ++ Text.percentEncode keep (Text.dropEndWhile (· == '/') path)

/-! ## Routes -/

/-- The methods of a part of a session, with what they ask for. -/
def sessionRoute? (id : String) : List String → Option (List (String × Endpoint))
  | [] => some [("GET", .plain (.session id .state)), ("DELETE", .plain (.session id .delete))]
  | ["fetch"] => some [("POST", .plain (.session id .fetch))]
  | ["paste"] => some [("POST", .withDocument (Call.checkPaste id))]
  | ["fallback"] => some [("POST", .plain (.session id .fallBack))]
  | ["tables"] => some [("GET", .plain (.session id .rows))]
  | ["collection"] => some [("GET", .plain (.session id .collection))]
  | ["selection", "select-all"] => some [("POST", .plain (.session id (.edit .selectAll)))]
  | ["selection", "deselect-all"] =>
    some [("POST", .plain (.session id (.edit .deselectAll)))]
  | ["selection", "toggle"] => some [("POST", .withDocument (Call.checkToggle id))]
  | ["selection", "filter"] => some [("POST", .withDocument (Call.checkFilter id))]
  | _ => none

/-- The methods of the route with these segments, with what they ask for. -/
def exactRoute? : List String → Option (List (String × Endpoint))
  | ["api", "health"] => some [("GET", .plain .health)]
  | ["api", "dbml", "parse"] => some [("POST", .withDocument Call.checkParse)]
  | ["api", "collections", "standard"] => some [("POST", .withDocument Call.checkStandard)]
  | ["api", "collections", "ai"] => some [("POST", .withDocument Call.checkOrganized)]
  | ["api", "analyze"] =>
    some [("POST", .withDocument fun v => Call.analyze <$> AnalysisRequest.check v)]
  | ["api", "imports"] =>
    some [("POST", .withDocument fun v => Call.create <$> ImportConfig.check v)]
  | "api" :: "imports" :: id :: rest => if id.isEmpty then none else sessionRoute? id rest
  | _ => none

/-- The methods of the route that a path has, with what they ask for. A line end
behind the last segment of a route is overlooked. -/
def route? (path : List Char) : Option (List (String × Endpoint)) :=
  let segments := segments path
  (exactRoute? segments).or (exactRoute? (withoutLineEnd segments))

/-- The methods of the route that an address has, led on up to `fuel` times. -/
def findRoute? : (fuel : Nat) → String → Option (List (String × Endpoint))
  | 0, _ => none
  | fuel + 1, address =>
    match servedPath address with
    | .error _ => none
    | .ok path =>
      match route? path with
      | some methods => some methods
      | none =>
        if path.getLast? = some '/' ∧ (route? (Text.dropEndWhile (· == '/') path)).isSome then
          findRoute? fuel (furtherAddress path)
        else none

/-- How often a client goes where an answer leads it, the first address included. -/
def maxHops : Nat := 21

/-- The call that the document of a request makes. -/
def readDocument (check : Json → Check.Checked Call) (body : Option String) :
    Except Answer Call :=
  match body with
  | none | some "" => .error (.invalid [⟨[], .missing⟩])
  | some text =>
    match Json.readOctets text with
    | .error (.malformed _ place) => .error (.invalid [⟨[.index place.offset], .jsonInvalid⟩])
    | .error _ => .error .unreadable
    | .ok v =>
      match check v with
      | .valid call => .ok call
      | .invalid issues => .error (.rejected v issues)

/-- The method of a request. -/
def HttpRequest.methodName (r : HttpRequest) : String :=
  String.ofList (r.method.toList.map Char.toUpper)

/-- Why a request does not reach the service, if it does not. -/
def HttpRequest.flaw? (r : HttpRequest) : Option DeliveryFlaw :=
  match servedAddress r.path with
  | .error flaw => some flaw
  | .ok _ => none

/-- The call that a request makes, or the answer that refuses it. -/
def HttpRequest.call (r : HttpRequest) : Except Answer Call :=
  let refuse (a : Answer) : Except Answer Call :=
    .error (if r.methodName = "HEAD" then a.withoutBody else a)
  match findRoute? maxHops r.path with
  | none => refuse .notFound
  | some methods =>
    match methods.lookup r.methodName with
    | none => refuse .methodNotAllowed
    | some (.plain call) => .ok call
    | some (.withDocument check) => readDocument check r.body

end RequestAtlas.Service
