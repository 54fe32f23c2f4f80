import Picklist.Terminal.Screen
import Picklist.Terminal.StyledLine
import Picklist.Text.Lines

/-!
# Panes

A pane is an area with a rounded border and a title in the top border. What it holds is painted into
the area inside the border.
-/

set_option autoImplicit false

namespace Picklist.Terminal

/-- The area inside the border. -/
def Area.inside (a : Area) : Area where
  x := min (a.x + 1) a.right
  y := min (a.y + 1) a.bottom
  width := a.width - 2
  height := a.height - 2

/-- A bordered area. -/
structure Pane where
  /-- The text in the top border; there is none if it is empty. -/
  title : String
  borderStyle : Style
  titleStyle : Style
  deriving Repr, DecidableEq, Inhabited

namespace Screen

/-- Shows one symbol in every cell of an area. -/
def putAll (s : Screen) (area : Area) (symbol : List Char) (style : Style) : Screen :=
  (List.range' area.y area.height).foldl
    (fun s row =>
      (List.range' area.x area.width).foldl (fun s column => s.put column row symbol style) s)
    s

/-- Paints the border around an area that is not empty. Where corners fall together, the left one
shows, and the top one. -/
def paintBorder (s : Screen) (area : Area) (style : Style) : Screen :=
  let right := area.right - 1
  let bottom := area.bottom - 1
  let s := s.putAll { area with width := 1 } ['│'] style
  let s := s.putAll { area with height := 1 } ['─'] style
  let s := s.putAll { area with x := right, width := 1 } ['│'] style
  let s := s.putAll { area with y := bottom, height := 1 } ['─'] style
  let s := s.put right bottom ['╯'] style
  let s := s.put right area.y ['╮'] style
  let s := s.put area.x bottom ['╰'] style
  s.put area.x area.y ['╭'] style

/-- Paints the glyphs of one segment from a column on, as far as they fit before the column `right`.
A glyph that takes no column joins the cell before it, and a wide one blanks the cells it covers. -/
def putSegmentGlyphs (s : Screen) (start row right column : Nat) (first : Bool) :
    List Glyph → Screen
  | [] => s
  | g :: rest =>
    let next := column + g.width
    if right < next then s
    else
      let s :=
        if first then s.put column row g.symbol g.style
        else if column = start then s.extend column row g.symbol g.style
        else if g.width = 0 then s.extend (column - 1) row g.symbol g.style
        else s.put column row g.symbol g.style
      let s := (List.range' (column + 1) (next - (column + 1))).foldl (fun s c => s.clear c row) s
      s.putSegmentGlyphs start row right next false rest

/-- Paints segments side by side into one row of an area; segments without width are left out. -/
def putSegments (s : Screen) (row right column : Nat) : StyledLine → Screen
  | [] => s
  | segment :: rest =>
    if segment.width = 0 then s.putSegments row right column rest
    else if right ≤ column then s
    else
      (s.putSegmentGlyphs column row right column true (segment.glyphs {})).putSegments row right
        (column + segment.width) rest

/-- Paints a line of text into the first row of an area. -/
def paintSegments (s : Screen) (area : Area) (line : StyledLine) : Screen :=
  let area := area.intersection s.area
  if area.isEmpty then s else s.putSegments area.y area.right area.x line

/-- Paints the border and the title of a pane. -/
def paintPane (s : Screen) (area : Area) (pane : Pane) : Screen :=
  let area := area.intersection s.area
  if area.isEmpty then s
  else
    let s := s.paintBorder area pane.borderStyle
    let title : StyledLine := (Text.stringLines pane.title).map fun text => { text }
    let room := area.width - 2
    let titleArea : Area :=
      { x := area.x + 1, y := area.y, width := min (StyledLine.width title) room, height := 1 }
    (s.restyle titleArea pane.titleStyle).paintSegments titleArea title

end Screen

end Picklist.Terminal
