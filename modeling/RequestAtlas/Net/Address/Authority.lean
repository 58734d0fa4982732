import RequestAtlas.Net.Address.Encoded
import RequestAtlas.Net.Address.Flaw
import RequestAtlas.Net.HostName
import RequestAtlas.Text.Case
import RequestAtlas.Text.Numeral
import RequestAtlas.Url.HostLiteral

/-!
# Authorities

Who is addressed: a user with a password perhaps, a host and a port. A host is an
address in numbers, a literal in brackets or a name; a name is in lower case and
in ASCII. The port that the scheme implies is left out.
-/

namespace RequestAtlas.Net

/-- Who is addressed. A user or a host that is missing is empty. A host literal is
kept without its brackets. -/
structure Authority where
  user : List Char
  host : List Char
  port : Option Int
  deriving DecidableEq, Repr

namespace Authority

/-! ## Parts as written -/

/-- The user, the host and the port of an authority as written. The user ends at the
last `@`, and a host in brackets ends at the last bracket. -/
def parts (s : List Char) : List Char × List Char × List Char :=
  let rest := Text.afterLast '@' s
  let user := s.take (s.length - rest.length - 1)
  if rest.head? = some '[' && rest.contains ']' then
    let after := Text.afterLast ']' rest
    let host := rest.take (rest.length - after.length)
    (user, host, if after.head? = some ':' then after.drop 1 else after)
  else (user, Text.cutAt ':' rest)

/-! ## Hosts -/

/-- Whether a text has the shape of four numbers with dots between them. -/
def hasDottedShape (s : List Char) : Bool :=
  let parts := Text.splitAt '.' s
  parts.length == 4 && parts.all fun part => !part.isEmpty && part.all Char.isDigit

/-- A host in normal form. -/
def hostOf (s : List Char) : Except AddressFlaw (List Char) :=
  if hasDottedShape s then
    if Url.isDottedAddress s then .ok s else .error (.dottedHost s)
  else if s.head? = some '[' && s.getLast? = some ']' then
    let literal := (s.drop 1).dropLast
    if Url.isZonedIPv6 literal then .ok literal else .error (.bracketedHost s)
  else if s.all Text.isAscii then
    .ok (Text.percentEncode isHostChar (Text.lower s))
  else
    match HostName.ascii? (Text.lower s) with
    | some name => .ok name
    | none => .error (.hostName s)

/-! ## Ports -/

/-- The ports that schemes imply. -/
def impliedPorts : List (List Char × Int) :=
  [("ftp".toList, 21), ("http".toList, 80), ("https".toList, 443), ("ws".toList, 80),
   ("wss".toList, 443)]

/-- A port in normal form. The scheme is taken as written. -/
def portOf (scheme s : List Char) : Except AddressFlaw (Option Int) :=
  if s.isEmpty then .ok none
  else
    match Text.integer? s with
    | some n => .ok (if impliedPorts.lookup scheme = some n then none else some n)
    | none => .error (.port s)

/-! ## The normal form -/

/-- The authority that a text says under a scheme. -/
def ofText (scheme s : List Char) : Except AddressFlaw Authority := do
  let (user, host, port) := parts s
  let host ← hostOf host
  let port ← portOf scheme port
  return ⟨Text.percentEncode isUserChar user, host, port⟩

/-- Whether there is nothing in an authority. -/
def isEmpty (a : Authority) : Bool :=
  a.user.isEmpty && a.host.isEmpty && a.port.isNone

/-- The text of an authority without its user. -/
def hostText (a : Authority) : List Char :=
  (if a.host.contains ':' then '[' :: a.host ++ [']'] else a.host)
    ++ (match a.port with
      | some n => ':' :: (toString n).toList
      | none => [])

/-- The text of an authority. -/
def text (a : Authority) : List Char :=
  (if a.user.isEmpty then [] else a.user ++ ['@']) ++ a.hostText

end Authority

end RequestAtlas.Net
