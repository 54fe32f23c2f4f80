/-!
# Pointer geometry

Where a pointer stands relative to the box of an item: inside it or not, and before or after its
midpoint along the axis of the list. Coordinates are floating-point numbers of the caller's space,
so comparisons with a coordinate that is not a number are false.
-/

set_option autoImplicit false

namespace Picklist.Arrange

/-- The axis along which a list is laid out. -/
inductive Orientation where
  /-- Items stacked from top to bottom. -/
  | vertical
  | horizontal
  deriving Repr, DecidableEq, Inhabited

/-- A pointer position. -/
structure Point where
  x : Float
  y : Float
  deriving Repr, Inhabited

/-- The box of an item on display. -/
structure Bounds where
  x : Float
  y : Float
  width : Float
  height : Float
  deriving Repr, Inhabited

/-- Whether the point lies in the box; the right and the bottom edge are outside. -/
def Bounds.contains (b : Bounds) (p : Point) : Bool :=
  p.x ≥ b.x && p.x < b.x + b.width && p.y ≥ b.y && p.y < b.y + b.height

namespace Orientation

/-- Whether the pointer stands before the midpoint of the box along this axis. -/
def isBeforeMidpoint (orientation : Orientation) (pointer : Point) (bounds : Bounds) : Bool :=
  match orientation with
  | vertical => pointer.y < bounds.y + bounds.height / 2.0
  | horizontal => pointer.x < bounds.x + bounds.width / 2.0

/-- The name of the axis, as it is written in settings and summaries. -/
def name : Orientation → String
  | vertical => "vertical"
  | horizontal => "horizontal"

/-- The axis with the given name. -/
def ofName? (text : String) : Option Orientation :=
  [vertical, horizontal].find? (·.name == text)

end Orientation

end Picklist.Arrange
