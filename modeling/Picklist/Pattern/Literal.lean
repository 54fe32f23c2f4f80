/-!
# Literal text as a pattern

A text is written as a pattern that matches exactly this text by putting a backslash before every
character with a meaning of its own.
-/

set_option autoImplicit false

namespace Picklist.Pattern

/-- The characters that have a meaning of their own in a pattern. -/
def metaCharacters : List Char :=
  ['\\', '.', '+', '*', '?', '(', ')', '|', '[', ']', '\x7b', '\x7d', '^', '$', '#', '&', '-', '~']

/-- Whether the character has a meaning of its own in a pattern. -/
def isMeta (c : Char) : Bool := metaCharacters.contains c

/-- Writes one character so that it stands for itself. -/
def escapeChar (c : Char) : List Char :=
  if isMeta c then ['\\', c] else [c]

/-- Writes a text so that it stands for itself. -/
def escape (cs : List Char) : List Char :=
  cs.flatMap escapeChar

/-- `escape` on strings. -/
def escapeString (s : String) : String :=
  String.ofList (escape s.toList)

end Picklist.Pattern
