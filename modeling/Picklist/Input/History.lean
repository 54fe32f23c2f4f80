/-!
# Blocks of text and edits

The text of a field is a list of lines. An edit puts a block of lines into the text or takes one
out. The history keeps the latest edits, those that can be undone and those that can be done again.
-/

set_option autoImplicit false

namespace Picklist.Input

/-- A place in a text: a line and the number of characters before the place. -/
structure Place where
  row : Nat := 0
  /-- Number of characters before the place. -/
  column : Nat := 0
  deriving Repr, DecidableEq, Inhabited

/-- Whether the first place stands before the second. -/
def Place.precedes (a b : Place) : Bool :=
  a.row < b.row || (a.row == b.row && a.column < b.column)

/-- Some lines of text; the first continues the line it is put into, and the last is continued by
what follows. -/
abbrev Block := List (List Char)

/-- The place behind a block that starts at the given place. -/
def Block.stop (block : Block) (start : Place) : Place :=
  match block with
  | [] => start
  | [line] => { start with column := start.column + line.length }
  | _ :: rest => { row := start.row + rest.length, column := (rest.getLastD []).length }

/-- The lines with a block put in at a place. -/
def insertBlock (lines : List (List Char)) (start : Place) (block : Block) : List (List Char) :=
  let line := lines.getD start.row []
  let before := line.take start.column
  let after := line.drop start.column
  let inserted : List (List Char) :=
    match block with
    | [] => [line]
    | [piece] => [before ++ piece ++ after]
    | piece :: rest => (before ++ piece) :: (rest.dropLast ++ [rest.getLastD [] ++ after])
  lines.take start.row ++ inserted ++ lines.drop (start.row + 1)

/-- The lines without what stands between two places. -/
def deleteBetween (lines : List (List Char)) (start stop : Place) : List (List Char) :=
  let before := (lines.getD start.row []).take start.column
  let after := (lines.getD stop.row []).drop stop.column
  lines.take start.row ++ [before ++ after] ++ lines.drop (stop.row + 1)

/-- What stands between two places. -/
def blockBetween (lines : List (List Char)) (start stop : Place) : Block :=
  if start.row = stop.row then
    [((lines.getD start.row []).take stop.column).drop start.column]
  else
    (lines.getD start.row []).drop start.column ::
      ((lines.take stop.row).drop (start.row + 1) ++ [(lines.getD stop.row []).take stop.column])

/-- A change of a text. -/
structure Edit where
  /-- Whether the block was put in; otherwise it was taken out. -/
  inserts : Bool
  block : Block
  /-- The place where the block starts. -/
  start : Place
  stop : Place
  deriving Repr, DecidableEq, Inhabited

namespace Edit

/-- Makes the change, and says where the cursor is then. -/
def perform (e : Edit) (lines : List (List Char)) : List (List Char) × Place :=
  if e.inserts then (insertBlock lines e.start e.block, e.stop)
  else (deleteBetween lines e.start e.stop, e.start)

/-- The change that takes this one back. -/
def inverse (e : Edit) : Edit := { e with inserts := !e.inserts }

end Edit

/-- The latest edits. -/
structure History where
  /-- Edits that can be undone, the last one first. -/
  done : List Edit := []
  /-- Edits that can be done again, the next one first. -/
  undone : List Edit := []
  deriving Repr, DecidableEq, Inhabited

namespace History

/-- How many edits are kept. -/
def capacity : Nat := 50

/-- Adds an edit. Edits that were undone are forgotten, and when the history is full the oldest one
is too. -/
def push (h : History) (e : Edit) : History :=
  let kept := if h.done.length + h.undone.length = capacity then h.done.dropLast else h.done
  { done := e :: kept, undone := [] }

/-- The edit to take back, and the history without it. -/
def undo? (h : History) : Option (Edit × History) :=
  match h.done with
  | e :: rest => some (e, { done := rest, undone := e :: h.undone })
  | [] => none

/-- The edit to do again, and the history with it. -/
def redo? (h : History) : Option (Edit × History) :=
  match h.undone with
  | e :: rest => some (e, { done := e :: h.done, undone := rest })
  | [] => none

end History

end Picklist.Input
