/-!
# Gestures

Where a reordering stands. All positions count sortable items only. A gesture is driven by keys or
by the pointer, and what it did is announced in words.
-/

set_option autoImplicit false

namespace Picklist.Arrange

/-- Where the reordering stands. -/
inductive Gesture where
  | idle
  | selecting (focus : Nat)
  /-- The item at `source` was grabbed by key; arrow keys move the place `drop` where it will
  land. -/
  | grabbed (source drop : Nat)
  /-- The item at `source` is dragged by the pointer and will land at `drop`. -/
  | dragging (source drop : Nat)
  /-- An item has just landed at `position`; it is marked as such up to the instant `deadline`. -/
  | settling (position deadline : Nat)
  deriving Repr, DecidableEq, Inhabited

namespace Gesture

/-- Source and landing place of the item that is being moved. -/
def move? : Gesture → Option (Nat × Nat)
  | grabbed source drop => some (source, drop)
  | dragging source drop => some (source, drop)
  | _ => none

/-- The position of the focus. -/
def focus? : Gesture → Option Nat
  | selecting focus => some focus
  | _ => none

end Gesture

/-- A pointer sample: the list index of the item under the pointer, and whether the pointer stands
before the midpoint of its box. -/
structure Hover where
  /-- List index of the item under the pointer. -/
  candidate : Nat
  /-- Whether the pointer stands before the midpoint. -/
  before : Bool
  deriving Repr, DecidableEq, Inhabited

/-- The keys that an arranged list understands. -/
inductive Key where
  | up
  | down
  | left
  | right
  /-- Grabs the focused item, or drops the grabbed one. -/
  | space
  /-- Gives up the focus or the move. -/
  | escape
  deriving Repr, DecidableEq, Inhabited

/-- What has happened last. Positions count from zero. -/
inductive Announcement where
  /-- The item at a position was grabbed by key. -/
  | grabbed (position total : Nat)
  /-- The grabbed item will land at a position. -/
  | moved (position total : Nat)
  /-- The item was dropped where it was. -/
  | returned (position total : Nat)
  /-- The item was dropped at a new position. -/
  | dropped (position total : Nat)
  | cancelled
  deriving Repr, DecidableEq, Inhabited

/-- The words of an announcement; positions are read out counting from one. -/
def Announcement.text : Announcement → String
  | grabbed position total => s!"Grabbed item at position {position + 1} of {total}."
  | moved position total => s!"Moved to position {position + 1} of {total}."
  | returned position total => s!"Item returned to position {position + 1} of {total}."
  | dropped position total => s!"Dropped item at position {position + 1} of {total}."
  | cancelled => "Reorder cancelled."

end Picklist.Arrange
