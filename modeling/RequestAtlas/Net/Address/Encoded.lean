import RequestAtlas.Text.Percent

/-!
# Characters of an address

Which characters stand for themselves in which part of an address. Any other is
percent-encoded; percent signs are kept, so that what is encoded already stays as
it is.
-/

namespace RequestAtlas.Net

/-- Whether a character is a visible ASCII character outside of `refused`. -/
def isVisibleBut (refused : List Char) (c : Char) : Bool :=
  0x20 < c.toNat && c.toNat < 0x7F && !refused.contains c

/-- A character that stands for itself in a fragment. -/
def isFragmentChar : Char → Bool :=
  isVisibleBut ['"', '<', '>', '\x60']

/-- A character that stands for itself in a query. -/
def isQueryChar : Char → Bool :=
  isVisibleBut ['"', '#', '<', '>']

/-- A character that stands for itself in a path. -/
def isPathChar : Char → Bool :=
  isVisibleBut ['"', '#', '<', '>', '?', '\x60', '\x7b', '\x7d']

/-- A character that stands for itself in a user and its password. -/
def isUserChar : Char → Bool :=
  isVisibleBut ['"', '#', '<', '>', '?', '\x60', '\x7b', '\x7d', '/', ';', '=', '@', '[', '\\',
    ']', '^', '|']

/-- A character that stands for itself in a host. -/
def isHostChar : Char → Bool :=
  isVisibleBut ['#', '/', ':', '<', '>', '?', '@', '[', ']', '^']

/-- Whether a character is a control character of ASCII. -/
def isControl (c : Char) : Bool :=
  c.toNat < 0x20 || c.toNat == 0x7F

end RequestAtlas.Net
