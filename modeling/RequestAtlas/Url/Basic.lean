import RequestAtlas.Text.Blank
import RequestAtlas.Text.Percent
import RequestAtlas.Url.Split

/-!
# Addresses of requests

A request is addressed by a base address that all requests of a collection
share, a path below it and a query. The address is kept twice: as text, for
clients that send the text, and in parts, for clients that put the parts
together. Base addresses are checked once; below a checked base every address
exists.

In the text a query value is percent-encoded, unless it holds a variable, which
two opening braces announce and a client fills in. Keys and path segments are
written as they are.
-/

namespace RequestAtlas

/-- A key with a value, as in a query or a header. -/
structure Parameter where
  key : String
  value : String
  deriving DecidableEq, Repr, Inhabited

/-- The address of a request. A part that the base address lacks is absent, and
an empty list of host labels stands for an absent host. -/
structure Url where
  raw : String
  protocol : Option String
  host : List String
  port : Option String
  path : List String
  query : List Parameter
  deriving DecidableEq, Repr, Inhabited

/-- A base address with its parts. -/
structure BaseUrl where
  /-- The address as written, without slashes at its end. -/
  text : String
  protocol : Option String
  host : List String
  port : Option String
  path : List String
  deriving DecidableEq, Repr, Inhabited

namespace BaseUrl

/-- A text, unless it is empty. -/
def nonEmpty? (s : List Char) : Option String :=
  if s.isEmpty then none else some (String.ofList s)

/-- The base address of a text; none when its authority is refused. The host
ends at the first colon behind the user part. -/
def ofString? (text : String) : Option BaseUrl :=
  let text := Text.dropEndSlashes text
  (Url.split? text.toList).map fun parts =>
    let (host, port) := Text.cutAt ':' (Text.afterLast '@' parts.authority)
    { text
      protocol := nonEmpty? parts.scheme
      host := if host.isEmpty then [] else (Text.splitAt '.' host).map String.ofList
      port := nonEmpty? port
      path := ((Text.splitAt '/' parts.path).filter (!·.isEmpty)).map String.ofList }

/-- What opens a variable in a value. -/
def variableMark : List Char := ['\x7b', '\x7b']

/-- The text of a query value. -/
def queryValue (value : String) : List Char :=
  if Text.contains variableMark value.toList then value.toList
  else Text.percentEncode Text.isUnreserved value.toList

/-- The text of a query, with its question mark; an empty query has none. -/
def queryText (query : List Parameter) : List Char :=
  if query.isEmpty then []
  else '?' :: Text.join ['&'] (query.map fun p => p.key.toList ++ '=' :: queryValue p.value)

/-- The address of `path` below a base, with a query. -/
def url (base : BaseUrl) (path : List String) (query : List Parameter) : Url where
  raw := String.ofList <|
    base.text.toList ++ '/' :: Text.join ['/'] (path.map String.toList) ++ queryText query
  protocol := base.protocol
  host := base.host
  port := base.port
  path := base.path ++ path
  query := query

/-- A given base address, or the one to fall back on when none or an empty one
is given; trimmed, and without slashes at its end. -/
def resolve (fallback : String) (given : Option String) : String :=
  let chosen := match given with
    | some s => if s.isEmpty then fallback else s
    | none => fallback
  Text.dropEndSlashes (Text.trimString chosen)

end BaseUrl

end RequestAtlas
