import Picklist.Input.History
import Picklist.Input.Key
import Picklist.Input.Words
import Picklist.Unicode.WidthTable

/-!
# Text fields

An editor for lines of text with a cursor, a selection, a store for cut text and a history. What was
selected is replaced by what is typed, and any deletion deletes just the selection. Deleting a piece
of a line stores it, deleting a single character does not. The part of the text on display is
remembered because paging moves the cursor into it.
-/

set_option autoImplicit false

namespace Picklist.Input

/-- The part of a text that is on display. -/
structure Viewport where
  top : Nat := 0
  left : Nat := 0
  width : Nat := 0
  height : Nat := 0
  deriving Repr, DecidableEq, Inhabited

/-- An editor for lines of text. -/
structure TextField where
  /-- The lines; there is always one. -/
  lines : List (List Char) := [[]]
  cursor : Place := {}
  /-- The other end of the selection. -/
  anchor : Option Place := none
  yank : Block := [[]]
  history : History := {}
  /-- The part of the text on display. -/
  viewport : Viewport := {}
  deriving Repr, DecidableEq, Inhabited

/-- The moves of a cursor. -/
inductive CursorMove where
  /-- One character on, over the end of a line too. -/
  | forward
  /-- One character back, over the start of a line too. -/
  | back
  | up
  | down
  /-- To the start of the line. -/
  | lineStart
  /-- To the end of the line. -/
  | lineEnd
  | top
  | bottom
  /-- To the start of the next word. -/
  | wordForward
  /-- To the start of the word or of the one before. -/
  | wordBack
  /-- To the start of the next paragraph. -/
  | paragraphForward
  /-- To the start of the paragraph or of the one before. -/
  | paragraphBack
  /-- Into the part of the text on display. -/
  | intoView
  deriving Repr, DecidableEq, Inhabited

namespace TextField

/-- A field with one line of text and the cursor at its end. -/
def ofLine (line : List Char) : TextField :=
  { lines := [line], cursor := { column := line.length } }

/-- The characters of a line. -/
def line (f : TextField) (row : Nat) : List Char :=
  f.lines.getD row []

/-- The place in a line that is closest to a column. -/
def fit (f : TextField) (row column : Nat) : Place :=
  { row, column := min column (f.line row).length }

/-- The line where the paragraph behind a line starts: the first line with text behind an empty
one. -/
def paragraphAfter? (previousEmpty : Bool) (row : Nat) : List (List Char) → Option Nat
  | [] => none
  | line :: rest =>
    if previousEmpty && !line.isEmpty then some row
    else paragraphAfter? line.isEmpty (row + 1) rest

/-- The line where the paragraph before a line starts, in the lines before it in reverse: the last
line with text that follows an empty one. -/
def paragraphBefore? (nextEmpty : Bool) (row : Nat) : List (List Char) → Option Nat
  | [] => none
  | line :: rest =>
    if line.isEmpty && !nextEmpty then some row
    else paragraphBefore? line.isEmpty (row - 1) rest

/-- Where a move takes the cursor, if it goes anywhere. -/
def target? (f : TextField) (move : CursorMove) : Option Place :=
  let row := f.cursor.row
  let column := f.cursor.column
  let current := f.line row
  let last := f.lines.length - 1
  match move with
  | .forward =>
    if current.length ≤ column then if row < last then some { row := row + 1 } else none
    else some { row, column := column + 1 }
  | .back =>
    if column = 0 then
      if row = 0 then none else some { row := row - 1, column := (f.line (row - 1)).length }
    else some { row, column := column - 1 }
  | .up => if row = 0 then none else some (f.fit (row - 1) column)
  | .down => if row < last then some (f.fit (row + 1) column) else none
  | .lineStart => some { row }
  | .lineEnd => some { row, column := current.length }
  | .top => some (f.fit 0 column)
  | .bottom => some (f.fit last column)
  | .wordForward =>
    match wordStartAfter? current column with
    | some column => some { row, column }
    | none => if row < last then some { row := row + 1 } else some { row, column := current.length }
  | .wordBack =>
    match wordStartBefore? current column with
    | some column => some { row, column }
    | none =>
      if row = 0 then some { row }
      else some { row := row - 1, column := (f.line (row - 1)).length }
  | .paragraphForward =>
    let found := paragraphAfter? current.isEmpty (row + 1) (f.lines.drop (row + 1))
    some (f.fit (found.getD last) column)
  | .paragraphBack =>
    if row = 0 then none
    else
      let found :=
        paragraphBefore? (f.line (row - 1)).isEmpty (row - 1) ((f.lines.take (row - 1)).reverse)
      some (f.fit (found.getD 0) column)
  | .intoView =>
    let v := f.viewport
    let clamp (value low high : Nat) : Nat := min (max value low) high
    let row := min (clamp row v.top (max v.top (v.top + v.height - 1))) last
    some (f.fit row (clamp column v.left (max v.left (v.left + v.width - 1))))

/-- Moves the cursor. With `extend` the selection goes along, otherwise it is dropped. -/
def move (f : TextField) (m : CursorMove) (extend : Bool) : TextField :=
  match f.target? m with
  | some cursor =>
    { f with cursor, anchor := if extend then some (f.anchor.getD f.cursor) else none }
  | none => f

/-- Shows the next or the previous page and takes the cursor there. -/
def page (f : TextField) (down extend : Bool) : TextField :=
  let v := f.viewport
  let top := if down then v.top + v.height else v.top - v.height
  let anchor := if extend then some (f.anchor.getD f.cursor) else f.anchor
  { f with viewport := { v with top }, anchor }.move .intoView extend

/-- Both ends of the selection in order, unless nothing is selected. -/
def selection? (f : TextField) : Option (Place × Place) :=
  match f.anchor with
  | some anchor =>
    if anchor.precedes f.cursor then some (anchor, f.cursor)
    else if f.cursor.precedes anchor then some (f.cursor, anchor)
    else none
  | none => none

/-- Makes an edit and remembers it. -/
def perform (f : TextField) (e : Edit) : TextField :=
  let (lines, cursor) := e.perform f.lines
  { f with lines, cursor, history := f.history.push e }

/-- Deletes what stands between two places, and stores it if wanted. -/
def deleteRange (f : TextField) (start stop : Place) (store : Bool) : TextField :=
  let block := blockBetween f.lines start stop
  let f := { f with yank := if store then block else f.yank }
  f.perform { inserts := false, block, start, stop }

/-- Deletes the selection, if there is one. Either way nothing is selected then. -/
def deleteSelection (f : TextField) (store : Bool) : Option TextField × TextField :=
  let dropped := { f with anchor := none }
  match f.selection? with
  | some (start, stop) =>
    let deleted := dropped.deleteRange start stop store
    (some deleted, deleted)
  | none => (none, dropped)

/-- Deletes the selection, or whatever else is to be deleted where nothing is selected. -/
def deleteSelectionOr (f : TextField) (otherwise : TextField → TextField) : TextField :=
  match f.deleteSelection false with
  | (some deleted, _) => deleted
  | (none, dropped) => otherwise dropped

/-- Puts a block in at the cursor, in place of the selection. An empty block changes nothing
more. -/
def insert (f : TextField) (block : Block) : TextField :=
  let f := (f.deleteSelection false).2
  if block = [[]] then f
  else f.perform { inserts := true, block, start := f.cursor, stop := block.stop f.cursor }

/-- Types a character; line breaks split the line. -/
def insertChar (f : TextField) (c : Char) : TextField :=
  if c = '\n' ∨ c = '\r' then f.insert [[], []] else f.insert [[c]]

/-- The columns between tab stops. -/
def tabStop : Nat := 4

/-- Types spaces up to the next tab stop. -/
def insertTab (f : TextField) : TextField :=
  let f := (f.deleteSelection false).2
  let before := (f.line f.cursor.row).take f.cursor.column
  let widths := before.map fun c => if c.toNat < 0x20 then 0 else Unicode.charWidth c
  let width := widths.foldr (· + ·) 0
  f.insert [List.replicate (tabStop - width % tabStop) ' ']

/-- Joins the cursor's line to the one before. -/
def joinLines (f : TextField) : TextField :=
  if f.cursor.row = 0 then f
  else
    let row := f.cursor.row - 1
    f.deleteRange { row, column := (f.line row).length } { row := f.cursor.row } false

/-- Deletes the character before the cursor. -/
def deleteBefore (f : TextField) : TextField :=
  f.deleteSelectionOr fun f =>
    if f.cursor.column = 0 then f.joinLines
    else f.deleteRange { f.cursor with column := f.cursor.column - 1 } f.cursor false

/-- Deletes the character after the cursor. -/
def deleteAfter (f : TextField) : TextField :=
  f.deleteSelectionOr fun f =>
    let moved := f.move .forward false
    if moved.cursor = f.cursor then moved else moved.deleteBefore

/-- Deletes and stores a piece of the cursor's line. -/
def deletePiece (f : TextField) (start stop : Nat) : TextField :=
  f.deleteRange { f.cursor with column := start } { f.cursor with column := stop } true

/-- Deletes from the cursor to the end of the line, or the line break if the cursor is there. -/
def deleteToLineEnd (f : TextField) : TextField :=
  f.deleteSelectionOr fun f =>
    let length := (f.line f.cursor.row).length
    if f.cursor.column < length then f.deletePiece f.cursor.column length else f.deleteAfter

/-- Deletes from the start of the line to the cursor, or the line break before the line if the
cursor is there. -/
def deleteToLineStart (f : TextField) : TextField :=
  f.deleteSelectionOr fun f =>
    if 0 < f.cursor.column then f.deletePiece 0 f.cursor.column else f.joinLines

/-- Deletes from the start of the word to the cursor. -/
def deleteWordBefore (f : TextField) : TextField :=
  f.deleteSelectionOr fun f =>
    let column := f.cursor.column
    match wordStartBefore? (f.line f.cursor.row) column with
    | some start => f.deletePiece start column
    | none => if 0 < column then f.deletePiece 0 column else f.joinLines

/-- Deletes from the cursor to the end of the word. -/
def deleteWordAfter (f : TextField) : TextField :=
  f.deleteSelectionOr fun f =>
    let line := f.line f.cursor.row
    let column := f.cursor.column
    match wordEndAfter? line column with
    | some stop => f.deletePiece column stop
    | none =>
      if column < line.length then f.deletePiece column line.length
      else if f.cursor.row + 1 < f.lines.length then
        { f with cursor := { row := f.cursor.row + 1 } }.joinLines
      else f

/-- Stores the selection without deleting it; nothing is selected then. -/
def copy (f : TextField) : TextField :=
  match f.selection? with
  | some (start, stop) => { f with anchor := none, yank := blockBetween f.lines start stop }
  | none => { f with anchor := none }

/-- Takes the last edit back. -/
def undo (f : TextField) : TextField :=
  match f.history.undo? with
  | some (e, history) =>
    let (lines, cursor) := e.inverse.perform f.lines
    { f with lines, cursor, history, anchor := none }
  | none => f

/-- Makes the edit again that was taken back last. -/
def redo (f : TextField) : TextField :=
  match f.history.redo? with
  | some (e, history) =>
    let (lines, cursor) := e.perform f.lines
    { f with lines, cursor, history, anchor := none }
  | none => f

end TextField

end Picklist.Input
