import Picklist.Terminal.Screen
import Picklist.Terminal.StyledLine

/-!
# Painting text

Lines of text are painted from the top of an area downwards, each cut at the right edge. The lines
can be centred, or shifted to the left by a number of columns.
-/

set_option autoImplicit false

namespace Picklist.Terminal

/-- Where the lines of a paragraph begin. -/
inductive Alignment where
  | left
  | center
  deriving Repr, DecidableEq, Inhabited

/-- The glyphs of a line that fit into a number of columns, `used` of which are taken. Glyphs wider
than all columns are left out. With a shift, glyphs are dropped from the left until the shift is
used up; a glyph that the shift would cut stays whole. -/
def fitGlyphs (columns used shift : Nat) : List Glyph → List Glyph
  | [] => []
  | g :: rest =>
    if columns < g.width then fitGlyphs columns used shift rest
    else if columns < used + g.width then []
    else if shift = 0 then g :: fitGlyphs columns (used + g.width) 0 rest
    else if shift < g.width then g :: fitGlyphs columns (used + g.width) 0 rest
    else fitGlyphs columns used (shift - g.width) rest

namespace Screen

/-- Paints glyphs side by side from a column on; glyphs that take no column are passed over. -/
def putGlyphs (s : Screen) (column row : Nat) : List Glyph → Screen
  | [] => s
  | g :: rest =>
    if g.width = 0 then s.putGlyphs column row rest
    else (s.put column row g.symbol g.style).putGlyphs (column + g.width) row rest

/-- Paints one line of text into the given row of an area. -/
def paintLine (s : Screen) (area : Area) (row : Nat) (alignment : Alignment) (shift : Nat)
    (line : StyledLine) : Screen :=
  let glyphs := fitGlyphs area.width 0 (if alignment = .left then shift else 0) (line.glyphs {})
  let width := (glyphs.map Glyph.width).foldr (· + ·) 0
  let indent := match alignment with
    | .left => 0
    | .center => area.width / 2 - width / 2
  s.putGlyphs (area.x + indent) row glyphs

/-- Paints lines of text over a base style. -/
def paintParagraph (s : Screen) (area : Area) (lines : List StyledLine) (base : Style := {})
    (alignment : Alignment := .left) (shift : Nat := 0) : Screen :=
  let area := area.intersection s.area
  let s := s.restyle area base
  if area.isEmpty then s
  else
    (lines.take area.height).zipIdx.foldl
      (fun s (line, offset) => s.paintLine area (area.y + offset) alignment shift line) s

end Screen

end Picklist.Terminal
