/-!
# Stretches of a text

A stretch of a text is given by two character positions. Readers outside count in bytes of the
UTF-8 encoding, so a stretch can be turned into a byte range of its text.
-/

set_option autoImplicit false

namespace Picklist.Text

/-- The characters from position `start` up to but not including position `stop`. -/
structure Span where
  start : Nat
  stop : Nat
  deriving Repr, DecidableEq, Inhabited

/-- Number of bytes of the first `position` characters. -/
def byteOffset (cs : List Char) (position : Nat) : Nat :=
  ((cs.take position).map Char.utf8Size).foldr (· + ·) 0

/-- The byte range of a span of the text. -/
def Span.toBytes (cs : List Char) (span : Span) : Nat × Nat :=
  (byteOffset cs span.start, byteOffset cs span.stop)

/-- The characters of the span. -/
def Span.slice (cs : List Char) (span : Span) : List Char :=
  (cs.take span.stop).drop span.start

end Picklist.Text
