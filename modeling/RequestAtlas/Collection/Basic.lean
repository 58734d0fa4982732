import RequestAtlas.Json.Limits
import RequestAtlas.Json.Printer
import RequestAtlas.Url.Basic

/-!
# Collections of requests

A collection is what an API client imports: folders of requests, and the
variables that the requests mention. A folder holds requests and groups of
requests, and a group holds requests only.
-/

namespace RequestAtlas

/-- The method of a request. -/
inductive Method where
  | get
  | post
  | put
  | patch
  | delete
  deriving DecidableEq, Repr, Inhabited

/-- The name of a method in a request line. -/
def Method.name : Method → String
  | .get => "GET"
  | .post => "POST"
  | .put => "PUT"
  | .patch => "PATCH"
  | .delete => "DELETE"

/-- A field of a form: a file to choose, or a text. -/
inductive FormField where
  | file (key source : String)
  | text (key value : String)
  deriving DecidableEq, Repr, Inhabited

/-- The body of a request: a JSON document, or a form. -/
inductive Body where
  | json (payload : Json)
  | form (fields : List FormField)
  deriving DecidableEq, Repr, Inhabited

/-- A request with its name in the collection. -/
structure Request where
  name : String
  method : Method
  headers : List Parameter
  url : Url
  body : Option Body
  deriving DecidableEq, Repr, Inhabited

/-- A named group of requests. -/
structure Group where
  name : String
  requests : List Request
  deriving DecidableEq, Repr, Inhabited

/-- What a folder holds. -/
inductive Entry where
  | request (r : Request)
  | group (g : Group)
  deriving DecidableEq, Repr, Inhabited

/-- A folder at the top of a collection. -/
structure Folder where
  name : String
  entries : List Entry
  deriving DecidableEq, Repr, Inhabited

/-- A collection. -/
structure Collection where
  name : String
  description : String
  folders : List Folder
  parameters : List Parameter
  deriving DecidableEq, Repr, Inhabited

/-- The requests of an entry in order. -/
def Entry.requests : Entry → List Request
  | .request r => [r]
  | .group g => g.requests

/-- The requests of a folder in order, those of its groups included. -/
def Folder.requests (f : Folder) : List Request :=
  f.entries.flatMap Entry.requests

/-- The requests of a collection in order. -/
def Collection.requests (c : Collection) : List Request :=
  c.folders.flatMap Folder.requests

/-- The fault of writing the body of a request within limits, if it is one. -/
def Request.overrun? (limits : Json.Limits) (r : Request) : Option Fault :=
  match r.body with
  | some (.json payload) => payload.overrun? limits
  | _ => none

/-- The fault of writing the bodies of a collection within limits, if it is one. -/
def Collection.overrun? (limits : Json.Limits) (c : Collection) : Option Fault :=
  c.requests.findSome? (·.overrun? limits)

end RequestAtlas
