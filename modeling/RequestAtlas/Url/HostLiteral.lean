import RequestAtlas.Text.Ascii
import RequestAtlas.Text.Search

/-!
# Host literals

What may stand between the brackets of a host: an IPv6 address, with a zone
behind a percent sign if need be, or an address of a future version, which is
`v`, hexadecimal digits, a dot and anything.
-/

namespace RequestAtlas.Url

/-- A part of a dotted address: a number up to 255 without leading zeros. -/
def isDottedPart (s : List Char) : Bool :=
  !s.isEmpty && s.all Char.isDigit && s.length ≤ 3
    && (s == ['0'] || s.head? != some '0') && Nat.ofDigitChars 10 s 0 ≤ 255

/-- Four numbers with dots between them. -/
def isDottedAddress (s : List Char) : Bool :=
  let parts := Text.splitAt '.' s
  parts.length == 4 && parts.all isDottedPart

/-- A group of an IPv6 address: one to four hexadecimal digits. -/
def isGroup (s : List Char) : Bool :=
  !s.isEmpty && s.all Text.isHexDigit && s.length ≤ 4

/-- The groups of an address with a dotted address in last place taken for the
two groups it stands for; nothing when that dotted address is none. -/
def plainGroups? (groups : List (List Char)) : Option (List (List Char)) :=
  match groups.getLast? with
  | some last =>
    if last.contains '.' then
      if isDottedAddress last then some (groups.dropLast ++ [['0'], ['0']]) else none
    else some groups
  | none => none

/-- The groups of one side of a double colon. A side without groups is a single
empty text. -/
def isSide (groups : List (List Char)) : Bool :=
  groups == [[]] || groups.all isGroup

/-- Whether the texts between the colons of an address make an IPv6 address:
eight groups, or fewer with one double colon that stands for the groups that
are left out. -/
def isGroupList (groups : List (List Char)) : Bool :=
  let inner := (groups.drop 1).dropLast
  match inner.idxOf? [] with
  | none => groups.length == 8 && groups.all isGroup
  | some i =>
    let before := groups.take (i + 1)
    let after := groups.drop (i + 2)
    let count (side : List (List Char)) : Nat := if side == [[]] then 0 else side.length
    isSide before && isSide after && count before + count after < 8

/-- Whether a text is an IPv6 address without zone. -/
def isIPv6 (s : List Char) : Bool :=
  let groups := Text.splitAt ':' s
  3 ≤ groups.length
    && match plainGroups? groups with
      | some gs => gs.length ≤ 9 && isGroupList gs
      | none => false

/-- Whether a text is an IPv6 address, with a zone or without. -/
def isZonedIPv6 (s : List Char) : Bool :=
  match s.dropWhile (· != '%') with
  | [] => isIPv6 s
  | _ :: zone => !zone.isEmpty && !zone.contains '%' && isIPv6 (s.takeWhile (· != '%'))

/-- Whether a text is an address of a future version. -/
def isFutureAddress : List Char → Bool
  | 'v' :: r =>
    match r.dropWhile Text.isHexDigit with
    | '.' :: _ :: _ => !(r.takeWhile Text.isHexDigit).isEmpty
    | _ => false
  | _ => false

/-- Whether a text may stand between the brackets of a host. -/
def isHostLiteral (s : List Char) : Bool :=
  if s.head? = some 'v' then isFutureAddress s else isZonedIPv6 s

end RequestAtlas.Url
