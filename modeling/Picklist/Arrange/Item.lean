/-!
# Items of an arranged list

Every item is either sortable or pinned to its place. The sortable items are numbered among
themselves: the list index of the sortable item at position `p` is the slot `p`.
-/

set_option autoImplicit false

namespace Picklist.Arrange

/-- A value with a mark that says whether it can be moved. -/
structure Item (α : Type) where
  value : α
  /-- Whether the item takes part in reordering; an item that does not keeps its list index. -/
  sortable : Bool := true
  deriving Repr, DecidableEq

variable {α : Type}

/-- The list indices of the sortable items, in order. -/
def slots (items : List (Item α)) : List Nat :=
  (items.zipIdx.filter (·.1.sortable)).map Prod.snd

/-- The number of sortable items. -/
def sortableCount (items : List (Item α)) : Nat :=
  items.countP (·.sortable)

/-- The position among the sortable items of the item with the given list index. -/
def positionOf (items : List (Item α)) (index : Nat) : Option Nat :=
  match items[index]? with
  | some item => if item.sortable then some (sortableCount (items.take index)) else none
  | none => none

/-- The list index of the sortable item at the given position. -/
def indexOf (items : List (Item α)) (position : Nat) : Option Nat :=
  (slots items)[position]?

end Picklist.Arrange
