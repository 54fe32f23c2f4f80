import Picklist.Input.TextField

/-!
# Key bindings of text fields

Which key does what in a text field. Shift takes the selection along with a move. Control wins over
a character: with control or alt held a character key types nothing.
-/

set_option autoImplicit false

namespace Picklist.Input

/-- What a key does in a text field. -/
inductive Action where
  | type (c : Char)
  | splitLine
  /-- Types spaces up to the next tab stop. -/
  | tab
  /-- Deletes the character before the cursor. -/
  | deleteBefore
  /-- Deletes the character after the cursor. -/
  | deleteAfter
  /-- Deletes to the end of the line. -/
  | deleteToLineEnd
  /-- Deletes to the start of the line. -/
  | deleteToLineStart
  /-- Deletes back to the start of a word. -/
  | deleteWordBefore
  /-- Deletes on to the end of a word. -/
  | deleteWordAfter
  | move (m : CursorMove)
  | page (down : Bool)
  | undo
  | redo
  | paste
  | cut
  | copy
  deriving Repr, DecidableEq, Inhabited

/-- What a character with control does. -/
def controlAction? : Char → Option Action
  | 'm' => some .splitLine
  | 'h' => some .deleteBefore
  | 'd' => some .deleteAfter
  | 'k' => some .deleteToLineEnd
  | 'j' => some .deleteToLineStart
  | 'w' => some .deleteWordBefore
  | 'n' => some (.move .down)
  | 'p' => some (.move .up)
  | 'f' => some (.move .forward)
  | 'b' => some (.move .back)
  | 'a' => some (.move .lineStart)
  | 'e' => some (.move .lineEnd)
  | 'u' => some .undo
  | 'r' => some .redo
  | 'y' => some .paste
  | 'x' => some .cut
  | 'c' => some .copy
  | 'v' => some (.page true)
  | _ => none

/-- What a character with alt does. -/
def altAction? : Char → Option Action
  | 'h' => some .deleteWordBefore
  | 'd' => some .deleteWordAfter
  | 'f' => some (.move .wordForward)
  | 'b' => some (.move .wordBack)
  | '<' => some (.move .top)
  | '>' => some (.move .bottom)
  | ']' => some (.move .paragraphForward)
  | 'n' => some (.move .paragraphForward)
  | '[' => some (.move .paragraphBack)
  | 'p' => some (.move .paragraphBack)
  | 'v' => some (.page false)
  | _ => none

/-- What a character with control and alt does. -/
def controlAltAction? : Char → Option Action
  | 'b' => some (.move .lineStart)
  | 'f' => some (.move .lineEnd)
  | 'p' => some (.move .top)
  | 'n' => some (.move .bottom)
  | _ => none

/-- What an arrow key does by itself, with control, and with control and alt. -/
def arrowAction? (k : Key) (alone withControl withBoth : CursorMove) : Option Action :=
  match k.control, k.alt with
  | false, false => some (.move alone)
  | true, false => some (.move withControl)
  | true, true => some (.move withBoth)
  | false, true => none

/-- What a key does, if anything. -/
def Key.action? (k : Key) : Option Action :=
  match k.code with
  | .char c =>
    match k.control, k.alt with
    | false, false => if c = '\n' ∨ c = '\r' then some .splitLine else some (.type c)
    | true, false => controlAction? c
    | false, true => altAction? c
    | true, true => controlAltAction? c
  | .enter => some .splitLine
  | .tab => if k.control || k.alt then none else some .tab
  | .backspace =>
    if k.control then none else some (if k.alt then .deleteWordBefore else .deleteBefore)
  | .delete => if k.control then none else some (if k.alt then .deleteWordAfter else .deleteAfter)
  | .home => some (.move .lineStart)
  | .endKey => some (.move .lineEnd)
  | .pageDown => some (.page true)
  | .pageUp => some (.page false)
  | .up => arrowAction? k .up .paragraphBack .top
  | .down => arrowAction? k .down .paragraphForward .bottom
  | .left => arrowAction? k .back .wordBack .lineStart
  | .right => arrowAction? k .forward .wordForward .lineEnd
  | .escape => none
  | .other => none

namespace TextField

/-- Does what a key asks for. -/
def act (f : TextField) (shift : Bool) : Action → TextField
  | .type c => f.insertChar c
  | .splitLine => f.insert [[], []]
  | .tab => f.insertTab
  | .deleteBefore => f.deleteBefore
  | .deleteAfter => f.deleteAfter
  | .deleteToLineEnd => f.deleteToLineEnd
  | .deleteToLineStart => f.deleteToLineStart
  | .deleteWordBefore => f.deleteWordBefore
  | .deleteWordAfter => f.deleteWordAfter
  | .move m => f.move m shift
  | .page down => f.page down shift
  | .undo => f.undo
  | .redo => f.redo
  | .paste => f.insert f.yank
  | .cut => (f.deleteSelection true).2
  | .copy => f.copy

/-- Applies a key; keys without a binding do nothing. -/
def press (f : TextField) (k : Key) : TextField :=
  match k.action? with
  | some action => f.act k.shift action
  | none => f

end TextField

end Picklist.Input
