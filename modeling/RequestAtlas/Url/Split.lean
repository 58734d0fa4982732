import RequestAtlas.Text.Search
import RequestAtlas.Url.HostLiteral

/-!
# Splitting an address

An address is cut into scheme, authority and path; query and fragment are cut
off. Two kinds of authority are refused: one whose brackets do not enclose a
host literal, and one with a character that is a compatibility form of a
delimiter, which other software might take for that delimiter.
-/

namespace RequestAtlas.Url

/-- The parts of an address. A part that is missing is empty. -/
structure Parts where
  scheme : List Char
  authority : List Char
  path : List Char
  deriving DecidableEq, Repr

/-- A character that may stand in a scheme. -/
def isSchemeChar (c : Char) : Bool :=
  c.isAlphanum || c == '+' || c == '.' || c == '-'

/-- Cuts off a scheme with its colon: an ASCII letter, then scheme characters.
The scheme is returned in lower case. -/
def cutScheme (s : List Char) : List Char × List Char :=
  match s.dropWhile isSchemeChar with
  | ':' :: r =>
    let scheme := s.takeWhile isSchemeChar
    if scheme.head?.any Char.isAlpha then (scheme.map Char.toLower, r) else ([], s)
  | _ => ([], s)

/-- A character that ends an authority. -/
def endsAuthority (c : Char) : Bool :=
  c == '/' || c == '?' || c == '#'

/-- Cuts off two slashes and the authority behind them. -/
def cutAuthority : List Char → List Char × List Char
  | '/' :: '/' :: r => (r.takeWhile (!endsAuthority ·), r.dropWhile (!endsAuthority ·))
  | s => ([], s)

/-- The characters whose compatibility form holds one of `/ ? # @ :`. -/
def delimiterForms : List Nat :=
  [0x2047, 0x2048, 0x2049, 0x2100, 0x2101, 0x2105, 0x2106, 0x2A74, 0xFE13, 0xFE16, 0xFE55,
   0xFE56, 0xFE5F, 0xFE6B, 0xFF03, 0xFF0F, 0xFF1A, 0xFF1F, 0xFF20]

/-- Why the brackets of an authority do not enclose a host literal. -/
inductive BracketFlaw where
  /-- One of the two is missing, or the host does not consist of them. -/
  | unpaired
  /-- They enclose no address of a future version. -/
  | future
  /-- They enclose four numbers with dots. -/
  | dotted
  /-- They enclose no address. -/
  | noAddress (text : List Char)
  deriving DecidableEq, Repr

/-- Why a text may not stand between the brackets of a host. -/
def literalFlaw? (s : List Char) : Option BracketFlaw :=
  if isHostLiteral s then none
  else if s.head? = some 'v' then some .future
  else if isDottedAddress s then some .dotted
  else some (.noAddress s)

/-- Why the brackets of an authority do not enclose a host literal, behind the last
`@` and in front of nothing but a port. -/
def bracketFlaw? (authority : List Char) : Option BracketFlaw :=
  if authority.contains '[' && authority.contains ']' then
    let host := Text.afterLast '@' authority
    match Text.cut? ['['] host with
    | some (before, rest) =>
      let (inside, after) := Text.cutAt ']' rest
      if before.isEmpty && (after.isEmpty || after.head? == some ':') then literalFlaw? inside
      else some .unpaired
    | none => literalFlaw? (host.takeWhile (· != ':'))
  else if authority.contains '[' || authority.contains ']' then some .unpaired
  else none

/-- Whether an authority is taken. -/
def isValidAuthority (authority : List Char) : Bool :=
  (bracketFlaw? authority).isNone && authority.all fun c => !delimiterForms.contains c.toNat

/-- What is left of an address when control characters and spaces are dropped
from its start, and tabs and line ends everywhere. -/
def cleaned (s : List Char) : List Char :=
  (s.dropWhile fun c => c.toNat ≤ 0x20).filter fun c => !(c == '\t' || c == '\n' || c == '\r')

/-- The parts of an address, unless its authority is refused. -/
def split? (s : List Char) : Option Parts :=
  let (scheme, r) := cutScheme (cleaned s)
  let (authority, r) := cutAuthority r
  if isValidAuthority authority then
    some ⟨scheme, authority, r.takeWhile fun c => c != '?' && c != '#'⟩
  else none

end RequestAtlas.Url
