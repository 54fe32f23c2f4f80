import Picklist.Arrange.Snapshot
import Picklist.Terminal.Paragraph
import Picklist.View.SelectView

/-!
# How an arranged list looks

A view has one row for every item, with a mark that tells the item's role. While the pointer drags
an item the rows stay where they are, so that they do not move away under the pointer; a hint tells
where the item will land. In any other gesture the moving item is shown at its landing place, and
the list scrolls just far enough to show the item in question. The boxes of the rows on the screen
serve to find the row under the pointer.
-/

set_option autoImplicit false

namespace Picklist.View

open Terminal
open Arrange (Orientation Role Gesture)

/-- The parts of an arranged list. -/
structure ArrangeView where
  /-- List index and line of every item, in display order. -/
  rows : List (Nat × StyledLine)
  orientation : Orientation
  status : String
  /-- Where the dragged item would land. -/
  dropHint : Option String
  /-- The row that is kept on display. -/
  activeRow : Option Nat
  deriving Repr, DecidableEq, Inhabited

/-- The mark and the style of a role. -/
def roleLook (theme : Theme) : Role → Segment
  | .normal => { text := "  " }
  | .pinned => { text := "• ", style := theme.pinned }
  | .focused => { text := "▶ ", style := theme.rowHighlight }
  | .moving => { text := "↕ ", style := theme.moving }
  | .settling => { text := "✓ ", style := theme.settling }

/-- Whether an item of this role is kept on display. -/
def isActive : Role → Bool
  | .focused | .moving | .settling => true
  | .normal | .pinned => false

variable {α : Type}

/-- The line of an item. -/
def itemLine (theme : Theme) (role : Role) (label : String) : StyledLine :=
  let look := roleLook theme role
  [look, { text := label, style := look.style }]

/-- The list indices in the order in which the rows are shown. -/
def rowOrder (s : Arrange.Snapshot α) : List Nat :=
  match s.gesture with
  | .dragging _ _ => List.range s.items.length
  | _ => s.order

/-- The view of an arranged list whose items are labelled by `label`. -/
def arrangeView (s : Arrange.Snapshot α) (theme : Theme) (label : α → String) : ArrangeView where
  rows := (rowOrder s).filterMap fun index =>
    s.items[index]?.map fun item => (index, itemLine theme (s.role index) (label item.value))
  orientation := s.orientation
  status := (s.announcement.map Arrange.Announcement.text).getD ""
  dropHint :=
    match s.gesture with
    | .dragging _ drop => some s!"Drop at position {drop + 1} of {s.slots.length}"
    | _ => none
  activeRow :=
    match s.gesture with
    | .dragging _ _ => none
    | _ => (rowOrder s).findIdx? fun index => isActive (s.role index)

/-- The plain text of every row. -/
def ArrangeView.rowTexts (v : ArrangeView) : List String :=
  v.rows.map fun row => StyledLine.plainText row.2

/-- What stands between the rows of a horizontal list. -/
def separator : String := " │ "

/-- The columns of rows painted side by side. -/
def stripWidth (rows : List (Nat × StyledLine)) : Nat :=
  (rows.map fun row => StyledLine.width row.2).foldr (· + ·) 0
    + Unicode.stringWidth separator * (rows.length - 1)

/-- Scrolls a horizontal list forward until the rows up to `active` fit, or `active` is the
first. -/
def scrollForward (rows : List (Nat × StyledLine)) (columns active offset : Nat) : Nat :=
  if offset < active then
    if columns < stripWidth ((rows.take (active + 1)).drop offset) then
      scrollForward rows columns active (offset + 1)
    else offset
  else offset
termination_by active - offset

/-- The scroll position from which the active row is on display, as close to the given one as
possible. -/
def ArrangeView.follow (v : ArrangeView) (area : Area) (offset : Nat) : Nat :=
  let count := v.rows.length
  match v.orientation with
  | .vertical =>
    let height := max area.height 1
    let offset := min offset (count - height)
    match v.activeRow with
    | some active =>
      if active < offset then active
      else if offset + height ≤ active then active + 1 - height
      else offset
    | none => offset
  | .horizontal =>
    let offset := min offset (count - 1)
    match v.activeRow with
    | some active =>
      if active < count then scrollForward v.rows area.width active (min offset active) else offset
    | none => offset

/-- The box of a row on the screen. -/
structure RowBox where
  /-- List index of the item in the row. -/
  index : Nat
  area : Area
  deriving Repr, DecidableEq, Inhabited

/-- The boxes of rows side by side from a column on, as far as they fit before the column
`right`. -/
def stripBoxes (row right column : Nat) : List (Nat × StyledLine) → List RowBox
  | [] => []
  | (index, line) :: rest =>
    let width := StyledLine.width line
    if right < column + width then []
    else
      ⟨index, { x := column, y := row, width, height := 1 }⟩ ::
        stripBoxes row right (column + width + Unicode.stringWidth separator) rest

/-- The boxes of the rows that are wholly on display in an area, after scrolling. -/
def ArrangeView.rowBoxes (v : ArrangeView) (area : Area) (offset : Nat) : List RowBox :=
  let visible := v.rows.drop offset
  match v.orientation with
  | .vertical =>
    (visible.take area.height).zipIdx.map fun ((index, _), place) =>
      ⟨index, { x := area.x, y := area.y + place, width := area.width, height := 1 }⟩
  | .horizontal => if area.height = 0 then [] else stripBoxes area.y area.right area.x visible

/-- The lines that show the rows from the scroll position on. -/
def ArrangeView.lines (v : ArrangeView) (theme : Theme) (offset : Nat) : List StyledLine :=
  let visible := (v.rows.drop offset).map Prod.snd
  match v.orientation with
  | .vertical => visible
  | .horizontal => [List.intercalate [{ text := separator, style := theme.empty }] visible]

/-- Paints an arranged list into an area after scrolling it. Answers with the new scroll position
and the area that holds the rows. -/
def ArrangeView.paint (v : ArrangeView) (theme : Theme) (title : String) (area : Area)
    (offset : Nat) (s : Screen) : Screen × Nat × Area :=
  let inner := area.inside
  let offset := v.follow inner offset
  ((s.paintPane area (pane theme title)).paintParagraph inner (v.lines theme offset), offset, inner)

end Picklist.View
