import RequestAtlas.Check.Basic
import RequestAtlas.Json.Value

/-!
# Answers of the service

A status code with a body: a document, the issues of a document that was
refused, or a plain text.
-/

namespace RequestAtlas.Service

/-- The body of an answer. -/
inductive AnswerBody where
  | document (v : Json)
  | issues (issues : List Check.Issue)
  | text (s : String)
  deriving DecidableEq, Repr

/-- An answer of the service. -/
structure Answer where
  status : Nat
  body : AnswerBody
  deriving DecidableEq, Repr

namespace Answer

/-- A document, as asked for. -/
def ok (v : Json) : Answer :=
  ⟨200, .document v⟩

/-- A refusal with its reason. -/
def refuse (status : Nat) (reason : String) : Answer :=
  ⟨status, .document (.obj [("detail", .str reason)])⟩

/-- No such path. -/
def notFound : Answer :=
  refuse 404 "Not Found"

/-- A path that does not know the method. -/
def methodNotAllowed : Answer :=
  refuse 405 "Method Not Allowed"

/-- An answer to a request for the head alone. -/
def withoutBody (a : Answer) : Answer :=
  { a with body := .text "" }

/-- A session that does not exist. -/
def noSession (id : String) : Answer :=
  refuse 404 ("Import session '" ++ id ++ "' not found.")

/-- A body that could not be read. -/
def unreadable : Answer :=
  refuse 400 "There was an error parsing the body"

/-- A failure that nothing provides for. -/
def internalError : Answer :=
  ⟨500, .text "Internal Server Error"⟩

/-- An issue as it is reported for the body of a request. -/
def inBody (issue : Check.Issue) : Check.Issue where
  place := .key "body" :: issue.place
  kind := if issue.kind = .modelType then .modelAttributesType else issue.kind

/-- A body that was refused. -/
def invalid (issues : List Check.Issue) : Answer :=
  ⟨422, .issues (issues.map inBody)⟩

/-- A document that was refused. The report repeats what each issue is about, so
it fails when that has no text in the standard. -/
def rejected (v : Json) (issues : List Check.Issue) : Answer :=
  if issues.all fun i => (i.subject? v).all Json.isStandard then invalid issues
  else internalError

/-- The greatest height of a document with free content that is sent. -/
def maxHeight : Nat := 260

/-- A document with free content, as asked for. It is sent in the standard, and only
if it is not too high. -/
def okFree (v : Json) : Answer :=
  if v.height ≤ maxHeight then ok v.standardized else internalError

end Answer

end RequestAtlas.Service
