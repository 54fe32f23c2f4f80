import Picklist.Unicode.CodeRanges

/-!
# White space

The characters with the property White_Space, and trimming by it.
-/

set_option autoImplicit false

namespace Picklist.Unicode

/-- The characters with the property White_Space. -/
def whiteSpaceRanges : CodeRanges := [
  (0x0009, 0x000D), (0x0020, 0x0020), (0x0085, 0x0085), (0x00A0, 0x00A0), (0x1680, 0x1680),
  (0x2000, 0x200A), (0x2028, 0x2029), (0x202F, 0x202F), (0x205F, 0x205F), (0x3000, 0x3000)]

/-- Whether the character is white space. -/
def isWhiteSpace (c : Char) : Bool :=
  whiteSpaceRanges.contains c

/-- The text without the white space at its start. -/
def trimStart (cs : List Char) : List Char :=
  cs.dropWhile isWhiteSpace

/-- The text without the white space at its end. -/
def trimEnd (cs : List Char) : List Char :=
  (cs.reverse.dropWhile isWhiteSpace).reverse

/-- The text without the white space at both ends. -/
def trim (cs : List Char) : List Char :=
  trimEnd (trimStart cs)

/-- The string without the white space at both ends. -/
def trimString (s : String) : String :=
  String.ofList (trim s.toList)

end Picklist.Unicode
