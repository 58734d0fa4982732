/-!
# Faults

Failures that nothing provides for: what a caller sees when input is of a kind
that no rule covers. As faults they are reported without a message.
-/

namespace RequestAtlas

/-- A failure that nothing provides for. -/
inductive Fault where
  /-- A base address whose authority is refused. -/
  | refusedAddress
  /-- An address that cannot be sent to. -/
  | malformedAddress
  /-- A host name that cannot be read. -/
  | malformedName
  /-- A host name with a code point that no name holds. -/
  | refusedCodePoint
  /-- A host name with a code point that its surroundings do not take. -/
  | refusedSurroundings
  /-- A host name with directions that do not go together. -/
  | mixedDirections
  /-- An integer with more digits than are taken. -/
  | longInteger
  /-- A document nested deeper than it is read or written, with the message that says so. -/
  | tooDeep (message : String)
  /-- A field was asked of a value that is no object. -/
  | noFields
  /-- The length was asked of a value that has none. -/
  | noLength
  /-- A value that stands where an object belongs. -/
  | notObject
  /-- A value that stands where a text belongs. -/
  | notText
  /-- A header value outside ASCII. -/
  | headerNotAscii
  /-- A number that is not finite where only the standard is sent. -/
  | notFinite
  deriving DecidableEq, Repr

end RequestAtlas
