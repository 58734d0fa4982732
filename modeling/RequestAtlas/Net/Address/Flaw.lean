import RequestAtlas.Json.Shown

/-!
# Flaws of addresses

Why a text is no address that a request could be sent to. The message shows the
part that is at fault.
-/

namespace RequestAtlas.Net

/-- Why a text is no address. -/
inductive AddressFlaw where
  /-- The address or one of its parts is too long. -/
  | tooLong
  /-- A control character of ASCII stands at some place. -/
  | control (c : Char) (place : Nat)
  /-- The port is no integer. -/
  | port (text : List Char)
  /-- The host looks like four numbers and is no such address. -/
  | dottedHost (text : List Char)
  /-- The host stands in brackets and is no host literal. -/
  | bracketedHost (text : List Char)
  /-- The host is no name. -/
  | hostName (text : List Char)
  /-- The path behind an authority does not begin with a slash. -/
  | pathWithoutSlash
  /-- The path of an address without scheme and authority begins with two slashes. -/
  | pathWithTwoSlashes
  /-- The path of an address without scheme and authority begins with a colon. -/
  | pathWithColon
  deriving DecidableEq, Repr

/-- The message of a flaw. -/
def AddressFlaw.message : AddressFlaw → String
  | .tooLong => "URL too long"
  | .control c place =>
    "Invalid non-printable ASCII character in URL, " ++ shown [c] ++ " at position "
      ++ toString place ++ "."
  | .port text => "Invalid port: " ++ shown text
  | .dottedHost text => "Invalid IPv4 address: " ++ shown text
  | .bracketedHost text => "Invalid IPv6 address: " ++ shown text
  | .hostName text => "Invalid IDNA hostname: " ++ shown text
  | .pathWithoutSlash => "For absolute URLs, path must be empty or begin with '/'"
  | .pathWithTwoSlashes => "Relative URLs cannot have a path starting with '//'"
  | .pathWithColon => "Relative URLs cannot have a path starting with ':'"
where
  /-- A part as a message shows it. -/
  shown (s : List Char) : String :=
    String.ofList (Json.showString (String.ofList s))

end RequestAtlas.Net
