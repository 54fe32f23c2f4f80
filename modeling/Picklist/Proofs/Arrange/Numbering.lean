import Mathlib.Data.List.Sort
import Picklist.Proofs.Arrange.Reorder
import Picklist.Proofs.Arrange.Slots

/-!
# The numbering of the sortable items

The sortable items of a list are numbered in their order. A position leads to a list index through
the slots, and a list index to a position by counting the sortable items before it. Both ways are
open just where there is a sortable item, each undoes the other and both keep the order, wherever
the pinned items stand.

Which way leads where depends on the slots alone. A landing moves the sortable items among the
slots, and nothing else moves items at all, so the numbering is the same after any run.
-/

set_option autoImplicit false

namespace Picklist.Arrange

variable {α : Type} {items others : List (Item α)} {position position' index index' : Nat}

/-! ## There and back -/

/-- Index and position determine each other. -/
theorem indexOf_eq_some_iff :
    indexOf items position = some index ↔ positionOf items index = some position :=
  positionOf_eq_some_iff.symm

/-- The positions with an index are those below the number of sortable items. -/
theorem isSome_indexOf_iff :
    (indexOf items position).isSome = true ↔ position < sortableCount items := by
  rw [indexOf, isSome_getElem?, length_slots]

/-- The indices with a position are those of sortable items. -/
theorem isSome_positionOf_iff :
    (positionOf items index).isSome = true ↔
      ∃ item, items[index]? = some item ∧ item.sortable = true := by
  rw [← mem_slots, Option.isSome_iff_exists, List.mem_iff_getElem?]
  exact exists_congr fun _ => positionOf_eq_some_iff

/-- From a position to its index and back. -/
theorem positionOf_indexOf (inside : position < sortableCount items) :
    (indexOf items position).bind (positionOf items) = some position := by
  obtain ⟨index, found⟩ := Option.isSome_iff_exists.mp (isSome_indexOf_iff.mpr inside)
  rw [found]
  exact indexOf_eq_some_iff.mp found

/-- From the index of a sortable item to its position and back. -/
theorem indexOf_positionOf {item : Item α} (there : items[index]? = some item)
    (sortable : item.sortable = true) :
    (positionOf items index).bind (indexOf items) = some index := by
  obtain ⟨position, found⟩ :=
    Option.isSome_iff_exists.mp (isSome_positionOf_iff.mpr ⟨item, there, sortable⟩)
  rw [found]
  exact indexOf_eq_some_iff.mpr found

/-- Slots are in the order of their positions. -/
theorem indexOf_lt_iff (found : indexOf items position = some index)
    (found' : indexOf items position' = some index') : index < index' ↔ position < position' := by
  obtain ⟨bound, rfl⟩ := List.getElem?_eq_some_iff.mp found
  obtain ⟨bound', rfl⟩ := List.getElem?_eq_some_iff.mp found'
  exact (slots_pairwise items).sortedLT.getElem_lt_getElem_iff

/-! ## What the numbering depends on -/

/-- The indices of positions depend on the slots alone. -/
theorem indexOf_congr (same : slots items = slots others) : indexOf items = indexOf others := by
  funext position
  rw [indexOf, same, indexOf]

/-- The positions of indices depend on the slots alone. -/
theorem positionOf_congr (same : slots items = slots others) :
    positionOf items = positionOf others := by
  funext index
  apply Option.ext
  intro position
  rw [positionOf_eq_some_iff, positionOf_eq_some_iff, same]

namespace Arranger

variable (a : Arranger α)

/-- No operation changes which slots are for sortable items. -/
theorem slots_perform (operation : Operation) :
    slots (a.perform operation).items = slots a.items :=
  ((Reordered.refl a.items).perform operation).slots

/-- No run changes which slots are for sortable items. -/
theorem slots_run (operations : List Operation) :
    slots (a.run operations).items = slots a.items := by
  refine @run_induction α (fun b => slots b.items = slots a.items) a rfl ?_ operations
  intro b operation same
  rw [slots_perform, same]

end Arranger

/-! ## The numbering -/

/-- Positions number the sortable items of a list from zero on. -/
structure Numbering (items : List (Item α)) : Prop where
  ascending : (slots items).Pairwise (· < ·)
  listed : ∀ index,
    index ∈ slots items ↔ ∃ item, items[index]? = some item ∧ item.sortable = true
  /-- There is a slot for each position below the number of sortable items, and for no other. -/
  filled : ∀ position, (indexOf items position).isSome = true ↔ position < sortableCount items
  /-- The items with a position are the sortable ones. -/
  numbered : ∀ index, (positionOf items index).isSome = true ↔
    ∃ item, items[index]? = some item ∧ item.sortable = true
  /-- From a position to the list index and back. -/
  indexBack : ∀ position < sortableCount items,
    (indexOf items position).bind (positionOf items) = some position
  /-- From the list index of a sortable item to its position and back. -/
  positionBack : ∀ index item, items[index]? = some item → item.sortable = true →
    (positionOf items index).bind (indexOf items) = some index
  indexMono : ∀ position position' index index', indexOf items position = some index →
    indexOf items position' = some index' → (position < position' ↔ index < index')
  positionMono : ∀ index index' position position', positionOf items index = some position →
    positionOf items index' = some position' → (index < index' ↔ position < position')

/-- Positions number the sortable items of any list. -/
theorem numbering (items : List (Item α)) : Numbering items where
  ascending := slots_pairwise items
  listed _ := mem_slots
  filled _ := isSome_indexOf_iff
  numbered _ := isSome_positionOf_iff
  indexBack _ inside := positionOf_indexOf inside
  positionBack _ _ there sortable := indexOf_positionOf there sortable
  indexMono _ _ _ _ found found' := (indexOf_lt_iff found found').symm
  positionMono _ _ _ _ found found' :=
    indexOf_lt_iff (indexOf_eq_some_iff.mpr found) (indexOf_eq_some_iff.mpr found')

/-- **Positions and list indices number the sortable items.** Whatever items an arranged list has
and whatever has been done with it, its positions and its slots are inverse to each other and in the
same order, and they are those of the sortable items. No run changes them, with whatever commits. -/
theorem positions_number_the_sortable_items (a : Arranger α) (operations : List Operation) :
    let b := a.run operations
    Numbering b.items ∧ b.total = a.total ∧ slots b.items = slots a.items ∧
      indexOf b.items = indexOf a.items ∧ positionOf b.items = positionOf a.items := by
  intro b
  have same : slots b.items = slots a.items := a.slots_run operations
  have total : b.total = a.total := by
    rw [Arranger.total, Arranger.total, ← length_slots, ← length_slots, same]
  exact ⟨numbering b.items, total, same, indexOf_congr same, positionOf_congr same⟩

/-- Pinned items at both ends, and two of them in the middle. -/
example :
    let items : List (Item Nat) :=
      [⟨1, false⟩, ⟨2, true⟩, ⟨3, false⟩, ⟨4, false⟩, ⟨5, true⟩, ⟨6, false⟩]
    slots items = [1, 4] ∧ indexOf items 1 = some 4 ∧ positionOf items 4 = some 1 ∧
      indexOf items 2 = none ∧ positionOf items 3 = none := by
  decide

end Picklist.Arrange
