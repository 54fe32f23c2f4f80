import Picklist.Arrange.Geometry

/-!
# Settings of an arranged list
-/

set_option autoImplicit false

namespace Picklist.Arrange

/-- How an arranged list behaves. -/
structure Config where
  /-- The axis of the list, which decides about arrow keys and midpoints. -/
  orientation : Orientation := .vertical
  /-- The least distance between two drop targets taken from the pointer, in milliseconds. -/
  dragThrottle : Nat := 16
  /-- How long a dropped item is marked as such, in milliseconds. -/
  settleDelay : Nat := 150
  deriving Repr, DecidableEq, Inhabited

end Picklist.Arrange
