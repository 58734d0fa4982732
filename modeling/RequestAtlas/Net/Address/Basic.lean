import RequestAtlas.Net.Address.Authority
import RequestAtlas.Text.Ascii
import RequestAtlas.Url.Basic

/-!
# Addresses that are sent

An address as a request carries it, always in normal form: the scheme in lower
case, an authority in normal form, no path segments that lead nowhere, and percent
signs for whatever may not stand for itself. Reading an address gives its normal
form or the flaw that keeps it from being one. Credentials in front of the host
also travel in a header.
-/

namespace RequestAtlas.Net

/-- An address. A scheme that is missing is empty; a query or a fragment may be there
and empty. -/
structure Address where
  scheme : List Char
  authority : Authority
  path : List Char
  query : Option (List Char)
  fragment : Option (List Char)
  deriving DecidableEq, Repr

namespace Address

/-! ## Parts as written -/

/-- The parts of an address as written. -/
structure Parts where
  scheme : List Char
  authority : List Char
  path : List Char
  query : Option (List Char)
  fragment : Option (List Char)
  deriving DecidableEq, Repr

/-- Cuts off a scheme with its colon. The colon alone is an empty scheme. -/
def cutScheme (s : List Char) : List Char × List Char :=
  let scheme := s.takeWhile Url.isSchemeChar
  match s.dropWhile Url.isSchemeChar with
  | ':' :: r => if scheme.head?.all Char.isAlpha then (scheme, r) else ([], s)
  | _ => ([], s)

/-- A text cut at the first `mark`, when there is one. -/
def cutPart (mark : Char) (s : List Char) : List Char × Option (List Char) :=
  if s.contains mark then ((Text.cutAt mark s).1, some (Text.cutAt mark s).2) else (s, none)

/-- The parts of a text. -/
def Parts.read (s : List Char) : Parts :=
  let (scheme, r) := cutScheme s
  let (authority, r) := Url.cutAuthority r
  let (front, fragment) := cutPart '#' r
  let (path, query) := cutPart '?' front
  { scheme, authority, path, query, fragment }

/-! ## Paths -/

/-- The segments of a path without those that say here or one up. `done` holds
the segments in front, the nearest first; nothing leads above the first. -/
def dropDots (done : List (List Char)) : List (List Char) → List (List Char)
  | [] => done.reverse
  | ['.'] :: rest => dropDots done rest
  | ['.', '.'] :: rest => dropDots (if done = [[]] then done else done.drop 1) rest
  | segment :: rest => dropDots (segment :: done) rest

/-- Why a path cannot stand in an address with or without a scheme and an
authority. -/
def pathFlaw? (hasScheme hasAuthority : Bool) (path : List Char) : Option AddressFlaw :=
  match hasAuthority, path with
  | true, c :: _ => if c = '/' then none else some .pathWithoutSlash
  | true, [] => none
  | false, '/' :: '/' :: _ => if hasScheme then none else some .pathWithTwoSlashes
  | false, ':' :: _ => if hasScheme then none else some .pathWithColon
  | false, _ => none

/-! ## The normal form -/

/-- The address that parts make. -/
def ofParts (p : Parts) : Except AddressFlaw Address := do
  let authority ← Authority.ofText p.scheme p.authority
  if let some flaw := pathFlaw? (!p.scheme.isEmpty) (!authority.isEmpty) p.path then
    throw flaw
  let path := if p.scheme.isEmpty && authority.isEmpty then p.path
    else Text.join ['/'] (dropDots [] (Text.splitAt '/' p.path))
  return {
    scheme := p.scheme.map Char.toLower
    authority
    path := Text.percentEncode isPathChar path
    query := p.query.map (Text.percentEncode isQueryChar)
    fragment := p.fragment.map (Text.percentEncode isFragmentChar) }

/-- The most characters of an address as written, and of each of its parts. -/
def maxLength : Nat := 65536

/-- The address that a text says. -/
def read (s : String) : Except AddressFlaw Address :=
  let cs := s.toList
  if maxLength < cs.length then .error .tooLong
  else
    match cs.find? isControl with
    | some c => .error (.control c (cs.idxOf c))
    | none => ofParts (.read cs)

/-- The parts of an address. -/
def parts (a : Address) : Parts :=
  ⟨a.scheme, a.authority.text, a.path, a.query, a.fragment⟩

/-- The address that parts make which need not have come from one text. -/
def Parts.assemble (p : Parts) : Except AddressFlaw Address :=
  let texts := [p.scheme, p.authority, p.path] ++ p.query.toList ++ p.fragment.toList
  if texts.any (maxLength < ·.length) then .error .tooLong else ofParts p

/-- The text of an address. -/
def text (a : Address) : String :=
  let part (mark : Char) (s : Option (List Char)) : List Char :=
    match s with
    | some s => mark :: s
    | none => []
  let authority := a.authority.text
  String.ofList <|
    (if a.scheme.isEmpty then [] else a.scheme ++ [':'])
      ++ (if authority.isEmpty then [] else '/' :: '/' :: authority)
      ++ a.path ++ part '?' a.query ++ part '#' a.fragment

/-! ## Addresses for a request -/

/-- Whether an address says by itself where a request goes. -/
def isAbsolute (a : Address) : Bool :=
  !a.scheme.isEmpty && !a.authority.host.isEmpty

/-- An address below another one; an absolute address stays as it is. Of the other
one only the scheme and the authority count. -/
def below (a : Address) (scheme authority : List Char) : Except AddressFlaw Address :=
  if a.isAbsolute then .ok a
  else
    let path := '/' :: a.path.dropWhile (· == '/')
    ({ scheme, authority, path, query := a.query, fragment := none } : Parts).assemble

/-- The address with form fields in place of its query. -/
def withForm (a : Address) (fields : List Parameter) : Except AddressFlaw Address :=
  let field (p : Parameter) : List Char :=
    Text.formEncode p.key.toList ++ '=' :: Text.formEncode p.value.toList
  { a.parts with query := some (Text.join ['&'] (fields.map field)) }.assemble

/-- Whether requests are sent to an address. -/
def isSendable (a : Address) : Bool :=
  a.isAbsolute && (a.scheme == "http".toList || a.scheme == "https".toList)

/-- The header that carries the user and the password of an address, when it has
them. -/
def credentials? (a : Address) : Option String :=
  let (user, password) := Text.cutAt ':' a.authority.user
  if user.isEmpty && password.isEmpty then none
  else
    let pair := Text.percentDecode user ++ ':' :: Text.percentDecode password
    some ("Basic " ++ String.ofList (Text.base64 (pair.flatMap Text.octets)))

end Address

end RequestAtlas.Net
