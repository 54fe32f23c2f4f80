import Picklist.Input.Key
import Picklist.View.ArrangeView

/-!
# Sorting a list

An arranged list that is reordered with arrow keys and the space bar, or by dragging with the mouse.
Enter accepts the order. A mouse event is about the row that was painted last in its cell. In a
vertical list the pointer counts as standing on the side of a row that makes the dragged item land
on that row.
-/

set_option autoImplicit false

namespace Picklist.Session

open Terminal
open Arrange (Arranger Hover)
open Input (Key)
open View (RowBox)

variable {α : Type}

/-- The end of a sorting session. -/
structure SortOutcome (α : Type) where
  /-- Whether the order was accepted; otherwise the session was given up. -/
  accepted : Bool
  items : List α
  deriving Repr, DecidableEq

/-- What the mouse does, as far as sorting is concerned. -/
inductive MouseAction where
  | press
  /-- The mouse moves with the left button down. -/
  | drag
  | release
  | other
  deriving Repr, DecidableEq, Inhabited

/-- A sorting session. -/
structure Sorting (α : Type) where
  arranger : Arranger α
  label : α → String
  theme : Theme := Theme.defaultTheme
  title : String := "Reorder"
  /-- The scroll position of the list. -/
  offset : Nat := 0
  /-- The boxes of the rows painted last. -/
  boxes : List RowBox := []

namespace Sorting

/-- What the status line shows when there is nothing to report. -/
def keyHints : String := "↑↓ focus · space grab/drop · enter accept · esc cancel"

/-- The outcome if the session ends now. -/
def outcome (s : Sorting α) (accepted : Bool) : SortOutcome α where
  accepted := accepted
  items := s.arranger.values

/-- Drops the moving item. -/
def commit (s : Sorting α) (now : Nat) : Sorting α :=
  { s with arranger := (s.arranger.commit now).2 }

/-- Hands a key to the arranged list. -/
def apply (s : Sorting α) (key : Arrange.Key) (now : Nat) : Sorting α :=
  { s with arranger := (s.arranger.handleKey key now).2 }

/-- The key of the arranged list that a key press stands for. -/
def listKey? : Input.KeyCode → Option Arrange.Key
  | .up | .char 'k' => some .up
  | .down | .char 'j' => some .down
  | .left | .char 'h' => some .left
  | .right | .char 'l' => some .right
  | .char ' ' => some .space
  | _ => none

/-- Whether nothing is focused or moving. -/
def isAtRest (s : Sorting α) : Bool :=
  match s.arranger.gesture with
  | .idle | .settling _ _ => true
  | _ => false

/-- Applies a key press. Answers with the outcome if it ends the session. -/
def handleKey (s : Sorting α) (key : Key) (now : Nat) : Option (SortOutcome α) × Sorting α :=
  if key.isControl 'c' then (some (s.outcome false), s)
  else
    match key.code with
    | .enter =>
      let s := s.commit now
      (some (s.outcome true), s)
    | .escape => if s.isAtRest then (some (s.outcome false), s) else (none, s.apply .escape now)
    | code =>
      match listKey? code with
      | some key => (none, s.apply key now)
      | none => (none, s)

/-- The row that was painted last in a cell. -/
def hit (s : Sorting α) (column row : Nat) : Option RowBox :=
  s.boxes.find? (·.area.contains column row)

/-- The pointer sample for a cell of a row. In a vertical list the pointer counts as below the
middle of rows behind the dragged item and above the middle of all others; in a horizontal list it
stands in the middle of its cell. -/
def sample (s : Sorting α) (box : RowBox) (column : Nat) : Hover :=
  let before := match s.arranger.config.orientation with
    | .horizontal => decide (2 * column + 1 < 2 * box.area.x + box.area.width)
    | .vertical =>
      match Arrange.positionOf s.arranger.items box.index, s.arranger.gesture.move? with
      | some candidate, some (source, _) => decide (candidate ≤ source)
      | _, _ => true
  ⟨box.index, before⟩

/-- Applies what the mouse does in a cell. -/
def handleMouse (s : Sorting α) (action : MouseAction) (column row now : Nat) : Sorting α :=
  match action with
  | .press =>
    match s.hit column row with
    | some box => { s with arranger := (s.arranger.beginDrag box.index).2 }
    | none => s
  | .drag =>
    match s.hit column row with
    | some box => { s with arranger := (s.arranger.hover (s.sample box column) now).2 }
    | none => s
  | .release => s.commit now
  | .other => s

/-- Lets time pass. -/
def tick (s : Sorting α) (now : Nat) : Sorting α :=
  { s with arranger := (s.arranger.tick now).2 }

/-- Shares out the rows of a screen between the list and the status line. The list has the first
row, the status line the second, and the list what is left, a horizontal one at most three rows. -/
def layout (orientation : Arrange.Orientation) (height : Nat) : Nat × Nat :=
  let status := min 1 (height - 1)
  match orientation with
  | .vertical => (height - status, status)
  | .horizontal => (min 3 (height - status), status)

/-- What the status line shows: where a dragged item would land, or what was announced last, or the
keys. -/
def status (view : View.ArrangeView) : String :=
  view.dropHint.getD (if view.status.isEmpty then keyHints else view.status)

/-- Paints the session and remembers the boxes of the rows. -/
def draw (session : Sorting α) (s : Screen) : Screen × Sorting α :=
  let area := s.area.withoutSideColumns
  let (list, statusRows) := layout session.arranger.config.orientation area.height
  let listArea := { area with height := list }
  let statusArea := { area with y := listArea.bottom, height := statusRows }
  let view := View.arrangeView session.arranger.snapshot session.theme session.label
  let (s, offset, inner) := view.paint session.theme session.title listArea session.offset s
  let lines : List StyledLine := (Text.stringLines (status view)).map fun text => [{ text }]
  let s := s.paintParagraph statusArea lines session.theme.statusStyle
  (s, { session with offset, boxes := view.rowBoxes inner offset })

end Sorting

end Picklist.Session
