import Picklist.Terminal.Pane

/-!
# Painting a list of rows

A list shows as many rows as its area is high. One row can be highlighted; it is marked by a symbol
in front, and the list scrolls just far enough to show it.
-/

set_option autoImplicit false

namespace Picklist.Terminal

/-- The scroll position of a list. -/
structure ListState where
  offset : Nat := 0
  selected : Option Nat := none
  deriving Repr, DecidableEq, Inhabited

namespace ListState

/-- Highlights a row, or none; without a highlight the list goes back to its start. -/
def select (state : ListState) (row : Option Nat) : ListState :=
  match row with
  | some _ => { state with selected := row }
  | none => {}

/-- Scrolls a list of `count` rows, `height` of which fit, so that the highlighted one is on
display. -/
def follow (state : ListState) (count height : Nat) : ListState :=
  let selected := state.selected.map fun row => min row (count - 1)
  let offset := min state.offset (count - 1)
  let shown := selected.getD offset
  let offset :=
    if shown < offset then shown
    else if offset + height ≤ shown then shown + 1 - height
    else offset
  { offset, selected }

end ListState

/-- What a list of rows looks like. -/
structure ListLook where
  /-- The symbol in front of the highlighted row; the other rows leave its columns blank. -/
  symbol : List Char
  /-- The style laid on top of the highlighted row. -/
  highlight : Style
  deriving Repr, DecidableEq, Inhabited

namespace Screen

/-- Paints plain text from a column on, into at most `columns` columns. -/
def putText (s : Screen) (column row columns : Nat) (text : List Char) : Screen :=
  let glyphs := (Segment.glyphs {} { text := String.ofList text }).filter (0 < ·.width)
  s.putSegmentGlyphs column row (min s.width (column + columns)) column true glyphs

/-- Paints one row of a list. -/
def paintRow (s : Screen) (area : Area) (look : ListLook) (highlighted : Bool) (line : StyledLine) :
    Screen :=
  let margin := Unicode.textWidth look.symbol
  let s := s.paintSegments { area with x := area.x + margin, width := area.width - margin } line
  let symbol := if highlighted then look.symbol else List.replicate margin ' '
  let s := s.putText area.x area.y area.width symbol
  if highlighted then s.restyle area look.highlight else s

/-- Paints a list of rows, and scrolls it first. -/
def paintRows (s : Screen) (area : Area) (look : ListLook) (state : ListState)
    (rows : List StyledLine) : Screen × ListState :=
  let area := area.intersection s.area
  if area.isEmpty then (s, state)
  else
    let state := state.follow rows.length area.height
    let shown := ((rows.zipIdx).drop state.offset).take area.height
    let s := shown.foldl
      (fun s (line, index) =>
        let rowArea := { area with y := area.y + (index - state.offset), height := 1 }
        s.paintRow rowArea look (state.selected == some index) line) s
    (s, state)

end Screen

end Picklist.Terminal
