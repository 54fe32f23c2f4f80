import Picklist.Terminal.Style

/-!
# The screen

A grid of cells. Every cell holds a symbol and its look; painting changes cells one at a time or
styles whole areas. Writing outside the grid changes nothing.
-/

set_option autoImplicit false

namespace Picklist.Terminal

/-- A rectangle of cells. -/
structure Area where
  x : Nat := 0
  y : Nat := 0
  width : Nat := 0
  height : Nat := 0
  deriving Repr, DecidableEq, Inhabited

namespace Area

/-- The largest coordinate of a terminal. -/
def limit : Nat := Nat.pow 2 16 - 1

/-- The area with the given corner and size, cut off at the largest coordinate. -/
def within (x y width height : Nat) : Area :=
  { x, y, width := min width (limit - x), height := min height (limit - y) }

/-- The column behind the right edge. -/
def right (a : Area) : Nat := a.x + a.width

/-- The row below the bottom edge. -/
def bottom (a : Area) : Nat := a.y + a.height

/-- Whether the area has no cell. -/
def isEmpty (a : Area) : Bool := a.width == 0 || a.height == 0

/-- The area without its outermost columns; there is none left when it had fewer than two. -/
def withoutSideColumns (a : Area) : Area :=
  if a.width < 2 then {} else { a with x := a.x + 1, width := a.width - 2 }

/-- Whether the cell lies in the area. -/
def contains (a : Area) (column row : Nat) : Bool :=
  a.x ≤ column && column < a.right && a.y ≤ row && row < a.bottom

/-- The common part of two areas. -/
def intersection (a b : Area) : Area :=
  let x := max a.x b.x
  let y := max a.y b.y
  { x, y, width := min a.right b.right - x, height := min a.bottom b.bottom - y }

end Area

/-- One cell of the screen. -/
structure Cell where
  symbol : List Char := [' ']
  fg : Color := .reset
  bg : Color := .reset
  modifiers : Modifiers := {}
  deriving Repr, DecidableEq, Inhabited

/-- Lays a style on top of the look of the cell. -/
def Cell.restyle (c : Cell) (s : Style) : Cell :=
  { c with
    fg := s.fg.getD c.fg
    bg := s.bg.getD c.bg
    modifiers := (c.modifiers.union s.add).diff s.remove }

/-- A grid of cells. -/
structure Screen where
  width : Nat
  height : Nat
  rows : Array (Array Cell)
  deriving Repr, DecidableEq, Inhabited

namespace Screen

/-- A screen of blank cells. -/
def blank (width height : Nat) : Screen :=
  { width, height, rows := Array.replicate height (Array.replicate width {}) }

/-- The whole screen. -/
def area (s : Screen) : Area := { width := s.width, height := s.height }

/-- The cell in the given column and row. -/
def cell? (s : Screen) (column row : Nat) : Option Cell := do
  (← s.rows[row]?)[column]?

/-- Changes one cell. -/
def modify (s : Screen) (column row : Nat) (f : Cell → Cell) : Screen :=
  { s with rows := s.rows.modify row (·.modify column f) }

/-- Shows a symbol in a cell. -/
def put (s : Screen) (column row : Nat) (symbol : List Char) (style : Style) : Screen :=
  s.modify column row fun cell => { cell with symbol }.restyle style

/-- Adds characters to the symbol of a cell. -/
def extend (s : Screen) (column row : Nat) (symbol : List Char) (style : Style) : Screen :=
  s.modify column row fun cell => { cell with symbol := cell.symbol ++ symbol }.restyle style

/-- Makes a cell blank. -/
def clear (s : Screen) (column row : Nat) : Screen :=
  s.modify column row fun _ => {}

/-- Lays a style on top of all cells of an area. -/
def restyle (s : Screen) (area : Area) (style : Style) : Screen :=
  (List.range' area.y area.height).foldl
    (fun s row =>
      (List.range' area.x area.width).foldl
        (fun s column => s.modify column row (·.restyle style)) s)
    s

/-- The symbols of every row side by side. -/
def rowTexts (s : Screen) : List (List Char) :=
  s.rows.toList.map fun row => row.toList.flatMap Cell.symbol

end Screen

end Picklist.Terminal
