import RequestAtlas.Fault
import RequestAtlas.Net.Address.Basic
import RequestAtlas.Url.Split

/-!
# Redirects

A response may name a further address. Nothing is sent there, but the address has
to make sense next to the one that answered: it must be an address, also where it
says only how it differs from the other one; it must be able to take over the host
or the fragment it lacks; and its host must be one that can be read.
-/

namespace RequestAtlas.Net

/-- Why a request gave no response: the connection failed, something in the request
or in the response was refused, or there was a fault. -/
inductive SendError where
  | failed (message : String)
  | refused (f : Fault) (message : String)
  | fault (f : Fault)
  deriving DecidableEq, Repr

/-- Checks that a text for a header is in ASCII. -/
def checkHeader (s : List Char) : Except SendError Unit :=
  match Text.asciiRefusal? s with
  | some message => .error (.refused .headerNotAscii message)
  | none => .ok ()

/-- An address, or the fault that there is none. -/
def addressOrFault (a : Except AddressFlaw Address) : Except SendError Address :=
  a.mapError fun _ => .fault .malformedAddress

/-- The message when the brackets of an authority enclose no host literal. -/
def bracketMessage : Url.BracketFlaw → String
  | .unpaired => "Invalid IPv6 URL"
  | .future => "IPvFuture address is invalid"
  | .dotted => "An IPv4 address cannot be in brackets"
  | .noAddress text =>
    AddressFlaw.message.shown text ++ " does not appear to be an IPv4 or IPv6 address"

namespace Address

/-- Checks that the host of an address can be read. -/
def checkHost (a : Address) : Except SendError Unit :=
  match HostName.readFlaw? a.authority.host with
  | some flaw => .error (.refused flaw.fault flaw.message)
  | none => .ok ()

/-! ## What a further address takes over -/

/-- The address with the host of another one. -/
def withHost (a b : Address) : Except AddressFlaw Address :=
  { a with authority := { a.authority with host := b.authority.host } }.parts.assemble

/-- The text that a fragment says. -/
def fragmentText (a : Address) : List Char :=
  Text.percentDecode (a.fragment.getD [])

/-- The address with a text as its fragment. -/
def withFragment (a : Address) (s : List Char) : Except AddressFlaw Address :=
  match s.find? isControl with
  | some c => .error (.control c (s.idxOf c))
  | none => { a.parts with fragment := some s }.assemble

/-- The text of the address that `text` says next to the address `a`. A path goes on
behind the last slash of the other one unless it begins with a slash itself. -/
def textNextTo (a : Address) (text : List Char) : Except Url.BracketFlaw (List Char) :=
  let (scheme, rest) := Url.cutScheme text
  let (authority, rest) := Url.cutAuthority rest
  match Url.bracketFlaw? authority with
  | some flaw => .error flaw
  | none =>
    if text.isEmpty then .ok a.text.toList
    else if !scheme.isEmpty && scheme ≠ a.scheme then .ok text
    else
      let front (authority : List Char) : List Char := a.scheme ++ "://".toList ++ authority
      let path := rest.takeWhile fun c => c != '?' && c != '#'
      if !authority.isEmpty then .ok (front authority ++ rest)
      else if path.isEmpty then
        let query := if rest.head? = some '?' then [] else
          match a.query with
          | some query => '?' :: query
          | none => []
        .ok (front a.authority.text ++ a.path ++ query ++ rest)
      else if path.head? = some '/' then .ok (front a.authority.text ++ rest)
      else
        let folder := a.path.take (a.path.length - (Text.afterLast '/' a.path).length)
        let folder := if folder.isEmpty then ['/'] else folder
        .ok (front a.authority.text ++ folder ++ rest)

/-- The address that another one without scheme or host says next to the address
`a`. -/
def nextTo (a further : Address) : Except SendError Address :=
  match a.textNextTo further.text.toList with
  | .error flaw => .error (.refused .refusedAddress (bracketMessage flaw))
  | .ok text => addressOrFault (Address.read (String.ofList text))

/-! ## The check -/

/-- Checks whether the further address `location` makes sense next to the address `a`
that answered. Like every header it is in ASCII. -/
def checkFurther (a : Address) (location : String) : Except SendError Unit := do
  checkHeader location.toList
  let further ← (Address.read location).mapError fun flaw =>
    .failed ("Invalid URL in location header: " ++ flaw.message ++ ".")
  if !further.scheme.isEmpty then
    further.checkHost
  let further ← if !further.scheme.isEmpty && further.authority.host.isEmpty then
      addressOrFault (further.withHost a)
    else .ok further
  let further ← if further.isAbsolute then .ok further else a.nextTo further
  let further ← if further.fragmentText.isEmpty && !a.fragmentText.isEmpty then
      addressOrFault (further.withFragment a.fragmentText)
    else .ok further
  further.checkHost

end Address

end RequestAtlas.Net
