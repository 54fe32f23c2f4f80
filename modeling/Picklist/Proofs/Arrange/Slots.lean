import Picklist.Proofs.Arrange.Swaps

/-!
# Slots and positions

The slots of a list are the list indices of its sortable items, and the position of a sortable item
is the number of sortable items before it. Both count the same thing, one forwards and one
backwards: an item has position `p` exactly if its list index is slot `p`. So positions are below
the number of sortable items, and reading a list at its slots gives its sortable items in order.
-/

set_option autoImplicit false

namespace Picklist.Arrange

variable {α : Type}

/-- What the first item adds to the positions of the items behind it. -/
def Item.rank (item : Item α) : Nat :=
  if item.sortable then 1 else 0

/-! ## Lists with a first item -/

/-- The slots of a list are that of its first item, if it is sortable, and those of the others. -/
theorem slots_cons (item : Item α) (items : List (Item α)) :
    slots (item :: items) =
      (if item.sortable then [0] else []) ++ (slots items).map (· + 1) := by
  have shifted : ((items.zipIdx 1).filter (·.1.sortable)).map Prod.snd =
      (slots items).map (· + 1) := by
    rw [List.zipIdx_succ, List.filter_map, List.map_map, slots, List.map_map]
    rfl
  unfold slots
  rw [List.zipIdx_cons, List.filter_cons]
  split
  · rw [List.map_cons, shifted]
    rfl
  · rw [shifted]
    rfl

/-- The first item has the first position, if it is sortable. -/
theorem positionOf_zero (item : Item α) (items : List (Item α)) :
    positionOf (item :: items) 0 = if item.sortable then some 0 else none := rfl

/-- The items behind the first one have the positions behind its own. -/
theorem positionOf_succ (item : Item α) (items : List (Item α)) (index : Nat) :
    positionOf (item :: items) (index + 1) = (positionOf items index).map (· + item.rank) := by
  unfold positionOf
  rw [List.getElem?_cons_succ, List.take_succ_cons, sortableCount, List.countP_cons]
  cases items[index]? with
  | none => rfl
  | some other =>
    dsimp only
    split <;> rfl

/-! ## One count from two sides -/

/-- The item with list index `index` has position `position` exactly if it stands in that slot. -/
theorem positionOf_eq_some_iff {items : List (Item α)} {index position : Nat} :
    positionOf items index = some position ↔ (slots items)[position]? = some index := by
  induction items generalizing index position with
  | nil => simp [positionOf, slots]
  | cons item items ih =>
    rw [slots_cons]
    cases sortable : item.sortable with
    | true =>
      cases index with
      | zero =>
        cases position with
        | zero => simp [positionOf_zero, sortable]
        | succ position => simp [positionOf_zero, sortable]
      | succ index =>
        rw [positionOf_succ, Item.rank, if_pos sortable]
        cases position with
        | zero => simp
        | succ position => simp [ih]
    | false =>
      cases index with
      | zero => simp [positionOf_zero, sortable]
      | succ index =>
        rw [positionOf_succ, Item.rank, sortable]
        simp [ih]

/-- There are as many slots as sortable items. -/
theorem length_slots (items : List (Item α)) : (slots items).length = sortableCount items := by
  unfold slots sortableCount
  rw [List.length_map, ← List.countP_eq_length_filter]
  have marks : items.zipIdx.countP (·.1.sortable) =
      (items.zipIdx.map Prod.fst).countP (·.sortable) := by
    rw [List.countP_map]
    rfl
  rw [marks, List.zipIdx_map_fst]

/-- Positions are below the number of sortable items. -/
theorem positionOf_lt {items : List (Item α)} {index position : Nat}
    (found : positionOf items index = some position) : position < sortableCount items := by
  rw [← length_slots]
  exact (List.getElem?_eq_some_iff.mp (positionOf_eq_some_iff.mp found)).1

/-- Slots are indices of the list. -/
theorem lt_length_of_mem_slots {items : List (Item α)} {index : Nat} (slot : index ∈ slots items) :
    index < items.length := by
  obtain ⟨item, there, -⟩ := mem_slots.mp slot
  exact (List.getElem?_eq_some_iff.mp there).1

/-- Slots are in ascending order. -/
theorem slots_pairwise (items : List (Item α)) : (slots items).Pairwise (· < ·) := by
  induction items with
  | nil => exact List.Pairwise.nil
  | cons item items ih =>
    have shifted : ((slots items).map (· + 1)).Pairwise (· < ·) :=
      ih.map _ fun _ _ before => Nat.succ_lt_succ before
    rw [slots_cons]
    split
    · rw [List.singleton_append, List.pairwise_cons]
      refine ⟨?_, shifted⟩
      intro index behind
      obtain ⟨_, -, rfl⟩ := List.mem_map.mp behind
      exact Nat.succ_pos _
    · exact shifted

/-- No slot comes twice. -/
theorem slots_nodup (items : List (Item α)) : (slots items).Nodup :=
  (slots_pairwise items).imp Nat.ne_of_lt

/-- Reading a list at its slots gives its sortable items in order. -/
theorem map_getElem?_slots (items : List (Item α)) :
    (slots items).map (items[·]?) = (items.filter (·.sortable)).map some := by
  have read : (items.zipIdx.filter (·.1.sortable)).map (fun marked => items[marked.2]?) =
      (items.zipIdx.filter (·.1.sortable)).map fun marked => some marked.1 := by
    apply List.map_congr_left
    intro marked member
    exact List.mem_zipIdx_iff_getElem?.mp (List.mem_filter.mp member).1
  calc (slots items).map (items[·]?)
    _ = (items.zipIdx.filter (·.1.sortable)).map (fun marked => items[marked.2]?) := by
      rw [slots, List.map_map]
      rfl
    _ = ((items.zipIdx.filter (·.1.sortable)).map Prod.fst).map some := by
      rw [read, List.map_map]
      rfl
    _ = (items.filter (·.sortable)).map some := by
      have marks : items.filter (·.sortable) =
          (items.zipIdx.map Prod.fst).filter (·.sortable) := by rw [List.zipIdx_map_fst]
      rw [marks, List.filter_map]
      rfl

end Picklist.Arrange
