import Picklist.Input.Bindings
import Picklist.Text.Lines

/-!
# The input for a query

A text field whose first line is the query. The enter key, and its control character, do not reach
the field.
-/

set_option autoImplicit false

namespace Picklist.Input

/-- The input for a query. -/
structure QueryInput where
  field : TextField
  deriving Repr, DecidableEq, Inhabited

namespace QueryInput

/-- An input that holds the first line of a text. -/
def ofText (text : String) : QueryInput :=
  { field := .ofLine ((Text.lines text.toList).headD []) }

/-- The query. -/
def text (q : QueryInput) : String :=
  String.ofList (q.field.lines.headD [])

/-- Whether the key is kept from the field. -/
def ignores (k : Key) : Bool :=
  k.code == .enter || k.isControl 'm'

/-- Applies a key. Says whether the query changed. -/
def press (q : QueryInput) (k : Key) : Bool × QueryInput :=
  if ignores k then (false, q)
  else
    let pressed : QueryInput := { field := q.field.press k }
    (pressed.text != q.text, pressed)

end QueryInput

end Picklist.Input
