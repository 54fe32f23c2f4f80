import Picklist.Input.TextField
import Picklist.Terminal.Pane
import Picklist.Terminal.Paragraph

/-!
# How a text field looks

The lines on display are painted with the cursor's cell reversed and the selection on a background
of its own. The field scrolls just far enough to keep the cursor on display. An empty field shows a
placeholder behind the cursor.
-/

set_option autoImplicit false

namespace Picklist.View

open Terminal
open Input (TextField Place Viewport)

/-- The style of the cursor's cell. -/
def cursorStyle : Style := { add := { reversed := true } }

/-- The style of selected text. -/
def selectionStyle : Style := { bg := some .lightBlue }

/-- The first of `length` places on display, so that `cursor` is among them and the change from
`previous` is least. -/
def scrollStart (previous cursor length : Nat) : Nat :=
  if cursor < previous then cursor
  else if previous + length ≤ cursor then cursor + 1 - length
  else previous

/-- Writes tabs as spaces, for text that starts in the given column; answers with the column behind
the text too. -/
def expandTabs (column : Nat) : List Char → List Char × Nat
  | [] => ([], column)
  | c :: rest =>
    if c = '\t' then
      let gap := TextField.tabStop - column % TextField.tabStop
      let (cs, column) := expandTabs (column + gap) rest
      (List.replicate gap ' ' ++ cs, column)
    else
      let width := if c.toNat < 0x20 then 0 else Unicode.charWidth c
      let (cs, column) := expandTabs (column + width) rest
      (c :: cs, column)

/-- The columns of a line that are selected, and whether the selection goes on into the next
line. -/
def selectedColumns (row length : Nat) : Option (Place × Place) → Option ((Nat × Nat) × Bool)
  | none => none
  | some (start, stop) =>
    if row < start.row ∨ stop.row < row then none
    else
      let first := if row = start.row then start.column else 0
      let last := if row = stop.row then stop.column else length
      some ((first, last), row != stop.row)

/-- Cuts a line at ascending places; each piece comes with the place where it starts. -/
def piecesAt (start : Nat) (places : List Nat) (cs : List Char) : List (Nat × List Char) :=
  match places with
  | [] => [(start, cs)]
  | place :: places =>
    (start, cs.take (place - start)) :: piecesAt place places (cs.drop (place - start))

/-- The line with the cursor and the selection marked. -/
def fieldLine (f : TextField) (row : Nat) : StyledLine :=
  let line := f.line row
  let cursor := if row = f.cursor.row then some f.cursor.column else none
  let selected := selectedColumns row line.length f.selection?
  let inCursor (place : Nat) : Bool := cursor == some place
  let inSelection (place : Nat) : Bool :=
    selected.any fun ((first, last), _) => first ≤ place && place < last
  let borders :=
    (match cursor with | some place => [place, place + 1] | none => [])
      ++ (match selected with | some ((first, last), _) => [first, last] | none => [])
  let places := (borders.filter (· ≤ line.length)).mergeSort
  let pieces := (piecesAt 0 places line).filter fun piece => !piece.2.isEmpty
  let marked := pieces.foldl
    (fun (acc : StyledLine × Nat) (place, cs) =>
      let (text, column) := expandTabs acc.2 cs
      let style :=
        if inCursor place then cursorStyle
        else if inSelection place then selectionStyle
        else Style.plain
      (acc.1 ++ [{ text := String.ofList text, style }], column))
    ([], 0)
  let tail : StyledLine :=
    if cursor.any (line.length ≤ ·) then [{ text := " ", style := cursorStyle }]
    else if selected.any (·.2) then [{ text := " ", style := selectionStyle }]
    else []
  marked.1 ++ tail

/-- How a text field is presented. -/
structure FieldLook where
  pane : Pane
  style : Style
  placeholder : String
  placeholderStyle : Style
  deriving Repr, DecidableEq, Inhabited

/-- Paints a text field into an area and remembers the part of the text on display. -/
def paintField (f : TextField) (look : FieldLook) (area : Area) (s : Screen) : Screen × TextField :=
  let inner := area.inside
  let top := scrollStart f.viewport.top f.cursor.row inner.height
  let left := scrollStart f.viewport.left f.cursor.column inner.width
  let empty := f.lines == [[]]
  let lines : List StyledLine :=
    if empty then [[{ text := " ", style := cursorStyle }, { text := look.placeholder }]]
    else (List.range' top (min inner.height (f.lines.length - top))).map (fieldLine f)
  let style := if empty then look.placeholderStyle else look.style
  let s := (s.paintPane area look.pane).paintParagraph inner lines style .left left
  (s, { f with viewport := { top, left, width := inner.width, height := inner.height } })

end Picklist.View
