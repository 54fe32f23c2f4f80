import Picklist.Arrange.Snapshot
import Picklist.Proofs.Arrange.Run
import Picklist.Proofs.Arrange.Swaps
import Picklist.Proofs.Lists

/-!
# What is previewed is what is committed

While an item is being moved the view shows the list indices in the order that a landing would give
them, and a commit gives that order to the items themselves. The two agree because moving commutes
with reading the items at the indices. A commit that holds back a sample is the commit of the list
to which the sample has been applied, so the preview of that list is what lands.
-/

set_option autoImplicit false

namespace Picklist.Arrange

variable {α : Type}

/-- Reading a list at moved indices is moving the list. -/
theorem filterMap_moveWithinSlots_range (slots : List Nat) (source drop : Nat)
    (items : List (Item α)) :
    (moveWithinSlots slots source drop (List.range items.length)).filterMap (items[·]?) =
      moveWithinSlots slots source drop items := by
  calc
    (moveWithinSlots slots source drop (List.range items.length)).filterMap (items[·]?)
      = ((moveWithinSlots slots source drop (List.range items.length)).map
          (items[·]?)).filterMap id := by rw [List.filterMap_map]; rfl
    _ = (moveWithinSlots slots source drop (items.map some)).filterMap id := by
      rw [← moveWithinSlots_map, map_getElem?_range]
    _ = moveWithinSlots slots source drop items := by
      rw [moveWithinSlots_map, List.filterMap_map]
      exact List.filterMap_some

/-- The entries at all indices are the list. -/
theorem filterMap_range (items : List (Item α)) :
    (List.range items.length).filterMap (items[·]?) = items := by
  have unmoved := filterMap_moveWithinSlots_range [] 0 0 items
  simpa [moveWithinSlots] using unmoved

namespace Arranger

variable (a : Arranger α)

/-- The display order is a rearrangement of all indices. -/
theorem displayOrder_perm : a.displayOrder.Perm (List.range a.items.length) := by
  unfold displayOrder
  dsimp only
  split
  · exact moveWithinSlots_perm _ _ _ _
  · exact List.Perm.refl _

variable {a}

/-- A pinned item is shown where it stands. -/
theorem displayOrder_pinned {index : Nat} {item : Item α} (there : a.items[index]? = some item)
    (pinned : item.sortable = false) : a.displayOrder[index]? = some index := by
  have inside : index < a.items.length := (List.getElem?_eq_some_iff.mp there).1
  have unmoved : (List.range a.items.length)[index]? = some index := by simp [inside]
  unfold displayOrder
  dsimp only
  split
  · rw [getElem?_moveWithinSlots_of_notMem (notMem_slots_of_pinned there pinned), unmoved]
  · exact unmoved

/-- The displayed items are those at the indices of the display order. -/
theorem displayItems_snd :
    a.snapshot.displayItems.map Prod.snd = a.displayOrder.filterMap (a.items[·]?) := by
  show (a.displayOrder.filterMap fun index => a.items[index]?.map (index, ·)).map Prod.snd = _
  rw [List.map_filterMap]
  congr 1
  funext index
  rw [Option.map_map]
  exact Option.map_id_apply

/-- While nothing is moved the items are displayed as they are. -/
theorem displayItems_of_still (still : a.gesture.move? = none) :
    a.snapshot.displayItems.map Prod.snd = a.items := by
  rw [displayItems_snd, displayOrder, still]
  exact filterMap_range a.items

/-- While an item is moved the items are displayed as the move would leave them. -/
theorem displayItems_of_moving {source drop : Nat}
    (moving : a.gesture.move? = some (source, drop)) :
    a.snapshot.displayItems.map Prod.snd =
      moveWithinSlots (slots a.items) source drop a.items := by
  rw [displayItems_snd, displayOrder, moving]
  exact filterMap_moveWithinSlots_range (slots a.items) source drop a.items

/-! ## Commits -/

/-- Without a held sample and without a move there is nothing to commit. -/
theorem commit_of_still (free : a.samples.pending = none) (still : a.gesture.move? = none)
    (now : Nat) : a.commit now = (none, a) := by
  have out := a.landing_commit now
  rw [flushSample_of_none free] at out
  generalize a.commit now = result at out ⊢
  cases out with
  | still => rfl
  | returned source moving =>
    rw [still] at moving
    cases moving
  | dropped source drop moving =>
    rw [still] at moving
    cases moving

/-- A commit leaves neither a held sample nor a move. -/
theorem commit_rests (a : Arranger α) (now : Nat) :
    (a.commit now).2.samples.pending = none ∧ (a.commit now).2.gesture.move? = none := by
  have released : a.flushSample.samples.pending = none := a.flushSample_pending
  have out := a.landing_commit now
  generalize a.commit now = result at out ⊢
  cases out with
  | still rest => exact ⟨released, rest⟩
  | returned source => exact ⟨released, rfl⟩
  | dropped source drop => exact ⟨released, rfl⟩

/-- A commit lands what the view shows, and answers with it if the item moves to another place. -/
theorem commit_of_free (free : a.samples.pending = none) (now : Nat) :
    (a.commit now).2.items = a.snapshot.displayItems.map Prod.snd ∧
      (∀ values, (a.commit now).1 = some values ↔
        (∃ source drop, a.gesture.move? = some (source, drop) ∧ source ≠ drop) ∧
          values = a.snapshot.displayItems.map fun shown => shown.2.value) ∧
      ((a.commit now).1 = none → (a.commit now).2.items = a.items) := by
  have out := a.landing_commit now
  rw [flushSample_of_none free] at out
  generalize a.commit now = result at out ⊢
  cases out with
  | still still =>
    refine ⟨(displayItems_of_still still).symm, ?_, fun _ => rfl⟩
    intro values
    simp [still]
  | returned source moving =>
    refine ⟨?_, ?_, fun _ => rfl⟩
    · rw [displayItems_of_moving moving]
      -- the item is moved to where it is: no position lies between
      simp [moveWithinSlots]
    · intro values
      simp [moving]
  | dropped source drop moving elsewhere =>
    have shown := displayItems_of_moving moving
    have values_shown : (a.snapshot.displayItems.map fun shown => shown.2.value) =
        (moveWithinSlots (slots a.items) source drop a.items).map Item.value := by
      rw [← shown, List.map_map]
      rfl
    refine ⟨shown.symm, ?_, ?_⟩
    · intro values
      rw [values_shown]
      constructor
      · intro answer
        exact ⟨⟨source, drop, moving, elsewhere⟩, (Option.some.inj answer).symm⟩
      · rintro ⟨-, rfl⟩
        rfl
    · intro none
      cases none

end Arranger

/-- **What is previewed is what is committed.** The view shows every list index once and pinned ones
in their place. A commit of a list that holds back no sample puts the items in the order shown, and
answers with their values just if an item is being moved to another place; a commit of one that
holds back a sample is the commit of the list to which the sample has been applied. After a commit
nothing is being moved, and another commit does nothing. -/
theorem preview_is_committed (a : Arranger α) (now : Nat) :
    a.snapshot.order.Perm (List.range a.items.length) ∧
      (∀ (index : Nat) (item : Item α), a.items[index]? = some item → item.sortable = false →
        a.snapshot.order[index]? = some index) ∧
      (a.samples.pending = none →
        (a.commit now).2.items = a.snapshot.displayItems.map Prod.snd ∧
          (∀ values, (a.commit now).1 = some values ↔
            (∃ source drop, a.gesture.move? = some (source, drop) ∧ source ≠ drop) ∧
              values = a.snapshot.displayItems.map fun shown => shown.2.value) ∧
          ((a.commit now).1 = none → (a.commit now).2.items = a.items)) ∧
      (∀ sample, a.samples.pending = some sample →
        let released : Arranger α := { a with samples := { a.samples with pending := none } }
        (released.applyHover sample).2.samples.pending = none ∧
          a.commit now = (released.applyHover sample).2.commit now) ∧
      (a.commit now).2.gesture.move? = none ∧
      ∀ later, (a.commit now).2.commit later = (none, (a.commit now).2) := by
  obtain ⟨free, still⟩ := a.commit_rests now
  refine ⟨a.displayOrder_perm, fun _ _ there pinned => Arranger.displayOrder_pinned there pinned,
    fun free => Arranger.commit_of_free free now, ?_, still,
    fun later => Arranger.commit_of_still free still later⟩
  intro sample held released
  have applied : (released.applyHover sample).2 = a.flushSample :=
    (Arranger.flushSample_of_some held).symm
  rw [applied]
  refine ⟨a.flushSample_pending, ?_⟩
  unfold Arranger.commit
  rw [Arranger.flushSample_of_none a.flushSample_pending]

/-- The first of three sortable items is dragged behind the second; the sample that takes it behind
the third comes too soon and is held back. -/
def draggedOn : Arranger Nat :=
  let items : List (Item Nat) := [⟨1, true⟩, ⟨2, false⟩, ⟨3, true⟩, ⟨4, true⟩]
  let dragged := (Arranger.beginDrag { config := {}, items } 0).2
  ((dragged.hover ⟨2, false⟩ 0).2.hover ⟨3, false⟩ 1).2

/-- The list to which the held sample has been applied. -/
def draggedFurther : Arranger Nat :=
  ({ draggedOn with samples := { draggedOn.samples with pending := none } }.applyHover
    ⟨3, false⟩).2

/-- The commit lands what is shown once the held sample has been applied, and not what is shown
before that. -/
theorem preview_is_committed_held :
    draggedOn.samples.pending = some ⟨3, false⟩ ∧ draggedOn.snapshot.order = [2, 1, 0, 3] ∧
      draggedFurther.snapshot.order = [2, 1, 3, 0] ∧
      (draggedOn.commit 2).1 = some [3, 2, 4, 1] ∧
      (draggedOn.commit 2).2.items = draggedFurther.snapshot.displayItems.map Prod.snd ∧
      (draggedOn.commit 2).2.commit 2 = (none, (draggedOn.commit 2).2) := by
  obtain ⟨-, -, -, held, -, again⟩ := preview_is_committed draggedOn 2
  obtain ⟨free, same⟩ := held ⟨3, false⟩ (by decide)
  obtain ⟨-, -, lands, -⟩ := preview_is_committed draggedFurther 2
  obtain ⟨shown, answer, -⟩ := lands free
  have moving : ∃ source drop, draggedFurther.gesture.move? = some (source, drop) ∧
      source ≠ drop := ⟨0, 2, by decide, by decide⟩
  refine ⟨by decide, by decide, by decide, ?_, ?_, again 2⟩
  · rw [same]
    exact (answer [3, 2, 4, 1]).mpr ⟨moving, by decide⟩
  · rw [same]
    exact shown

end Picklist.Arrange
