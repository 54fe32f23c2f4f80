/-!
# Keys

A key press with the modifier keys that are held down.
-/

set_option autoImplicit false

namespace Picklist.Input

/-- A key. -/
inductive KeyCode where
  /-- A key that writes a character. -/
  | char (c : Char)
  | enter
  | escape
  | up
  | down
  | left
  | right
  | home
  | endKey
  | pageUp
  | pageDown
  | tab
  | backspace
  | delete
  | other
  deriving Repr, DecidableEq, Inhabited

/-- A key press. -/
structure Key where
  code : KeyCode
  control : Bool := false
  alt : Bool := false
  shift : Bool := false
  deriving Repr, DecidableEq, Inhabited

/-- Whether the key is the character together with control. -/
def Key.isControl (k : Key) (c : Char) : Bool :=
  k.code == .char c && k.control

end Picklist.Input
