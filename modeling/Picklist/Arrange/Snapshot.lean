import Picklist.Arrange.Arranger

/-!
# What an arranger shows

A snapshot lists the items in display order: the committed order with the moving item already at its
landing place. Every item has a role in the gesture.
-/

set_option autoImplicit false

namespace Picklist.Arrange

/-- The part that an item plays in the gesture. -/
inductive Role where
  | normal
  | pinned
  | focused
  | moving
  | settling
  deriving Repr, DecidableEq, Inhabited

/-- A view of an arranger. -/
structure Snapshot (α : Type) where
  items : List (Item α)
  gesture : Gesture
  order : List Nat
  /-- List indices of the sortable items. -/
  slots : List Nat
  orientation : Orientation
  announcement : Option Announcement
  deriving Repr, DecidableEq

variable {α : Type}

/-- The list indices in display order. -/
def Arranger.displayOrder (a : Arranger α) : List Nat :=
  let order := List.range a.items.length
  match a.gesture.move? with
  | some (source, drop) => moveWithinSlots (slots a.items) source drop order
  | none => order

/-- The current view. -/
def Arranger.snapshot (a : Arranger α) : Snapshot α where
  items := a.items
  gesture := a.gesture
  order := a.displayOrder
  slots := slots a.items
  orientation := a.config.orientation
  announcement := a.announcement

namespace Snapshot

/-- The items in display order with their list indices. -/
def displayItems (s : Snapshot α) : List (Nat × Item α) :=
  s.order.filterMap fun index => s.items[index]?.map (index, ·)

/-- The part that the item with the given list index plays. -/
def role (s : Snapshot α) (index : Nat) : Role :=
  match s.slots.idxOf? index with
  | none => .pinned
  | some position =>
    match s.gesture with
    | .selecting focus => if focus = position then .focused else .normal
    | .grabbed source _ => if source = position then .moving else .normal
    | .dragging source _ => if source = position then .moving else .normal
    | .settling landed _ => if landed = position then .settling else .normal
    | .idle => .normal

end Snapshot

end Picklist.Arrange
