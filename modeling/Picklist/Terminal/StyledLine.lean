import Picklist.Terminal.Style
import Picklist.Unicode.Grapheme
import Picklist.Unicode.Width

/-!
# Styled lines

A line of text whose pieces have styles of their own. For painting it is cut into grapheme clusters;
line feeds are left out.
-/

set_option autoImplicit false

namespace Picklist.Terminal

/-- A piece of text in one style. -/
structure Segment where
  text : String
  style : Style := {}
  deriving Repr, DecidableEq, Inhabited

/-- Pieces of text side by side. -/
abbrev StyledLine := List Segment

/-- A grapheme cluster with its style. -/
structure Glyph where
  symbol : List Char
  style : Style
  deriving Repr, DecidableEq, Inhabited

/-- The columns that the glyph takes. -/
def Glyph.width (g : Glyph) : Nat := Unicode.textWidth g.symbol

/-- The columns that the text of the segment takes. -/
def Segment.width (s : Segment) : Nat := Unicode.stringWidth s.text

/-- The glyphs of a segment, its style laid on top of a base style. -/
def Segment.glyphs (base : Style) (s : Segment) : List Glyph :=
  ((Unicode.graphemes s.text.toList).filter (· != ['\n'])).map fun g => ⟨g, base.patch s.style⟩

namespace StyledLine

/-- The text without its styles. -/
def plainText (line : StyledLine) : String :=
  String.join (line.map Segment.text)

/-- The columns that the line takes. -/
def width (line : StyledLine) : Nat :=
  (line.map Segment.width).foldr (· + ·) 0

/-- The glyphs of the line. -/
def glyphs (base : Style) (line : StyledLine) : List Glyph :=
  line.flatMap (Segment.glyphs base)

end StyledLine

end Picklist.Terminal
