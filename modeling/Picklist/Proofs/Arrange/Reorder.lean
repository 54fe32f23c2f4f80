import Picklist.Proofs.Arrange.Run
import Picklist.Proofs.Arrange.Swaps

/-!
# Reordering loses nothing

The items change in one way only: a move to another place lands, by a commit or by the key that
drops a grabbed item. A landing moves sortable items among their slots. So at every point of a run
the items are the first ones in another order, the pinned ones stand where they stood, and the slots
are the same.
-/

set_option autoImplicit false

namespace Picklist.Arrange

variable {α : Type}

/-- The operations that land the moving item, which stood at position `source`, at the other
position `drop`. -/
inductive Lands (a : Arranger α) : Operation → Nat → Nat → Prop where
  /-- A commit takes the held sample into account. -/
  | commit (now source drop : Nat) (moving : a.flushSample.gesture.move? = some (source, drop))
    (elsewhere : source ≠ drop) : Lands a (.commit now) source drop
  | space (now source drop : Nat) (grabbed : a.gesture = .grabbed source drop)
    (elsewhere : source ≠ drop) : Lands a (.press .space now) source drop

namespace Arranger

/-- A commit leaves the items alone or moves one of them. -/
theorem commit_items (a : Arranger α) (now : Nat) :
    (a.commit now).2.items = a.items ∨
      ∃ source drop, a.flushSample.gesture.move? = some (source, drop) ∧ source ≠ drop ∧
        (a.commit now).2.items = moveWithinSlots (slots a.items) source drop a.items := by
  have same : a.flushSample.items = a.items := (sameList_flushSample a).items
  have out := a.landing_commit now
  generalize a.commit now = result at out ⊢
  cases out with
  | still => exact .inl same
  | returned source => exact .inl same
  | dropped source drop moving elsewhere =>
    refine .inr ⟨source, drop, moving, elsewhere, ?_⟩
    show moveWithinSlots (slots a.flushSample.items) source drop a.flushSample.items = _
    rw [same]

/-- The space bar changes the items only by dropping a grabbed one at another position. -/
theorem space_items (a : Arranger α) (now : Nat) :
    (a.space now).2.items = a.items ∨
      ∃ source drop, a.gesture = .grabbed source drop ∧ source ≠ drop ∧
        (a.space now).2.items = moveWithinSlots (slots a.items) source drop a.items := by
  unfold space
  split
  · exact .inl rfl
  · rename_i source drop grabbed
    have same : a.flushSample.gesture = a.gesture := by
      apply flushSample_gesture
      intro source drop dragging
      rw [grabbed] at dragging
      cases dragging
    obtain kept | ⟨source', drop', moving, elsewhere, moved⟩ := a.commit_items now
    · exact .inl kept
    · rw [same, grabbed] at moving
      obtain ⟨rfl, rfl⟩ : source = source' ∧ drop = drop' := by
        simpa only [Gesture.move?, Option.some.injEq, Prod.mk.injEq] using moving
      exact .inr ⟨source, drop, grabbed, elsewhere, moved⟩
  · exact .inl rfl

/-- No other key changes the items. -/
theorem handleKey_items {a : Arranger α} {key : Key} {now : Nat} (other : key ≠ .space) :
    (a.handleKey key now).2.items = a.items := by
  unfold handleKey
  split
  · rfl
  · split
    · exact (sameList_cancel a).items
    · exact absurd rfl other
    · split
      · exact (sameList_arrow a _).items
      · rfl

/-- The items change only by a landing, which moves them inside their slots. -/
theorem perform_items (a : Arranger α) (operation : Operation) :
    (a.perform operation).items = a.items ∨
      ∃ source drop, Lands a operation source drop ∧
        (a.perform operation).items = moveWithinSlots (slots a.items) source drop a.items := by
  cases operation with
  | beginDrag index => exact .inl (sameList_beginDrag a index).items
  | updateDropTarget pointer candidate bounds now => exact .inl (sameList_hover a _ now).items
  | tick now => exact .inl (sameList_tick a now).items
  | commit now =>
    obtain kept | ⟨source, drop, moving, elsewhere, moved⟩ := a.commit_items now
    · exact .inl kept
    · exact .inr ⟨source, drop, .commit now source drop moving elsewhere, moved⟩
  | cancel => exact .inl (sameList_cancel a).items
  | press key now =>
    by_cases drops : key = .space
    · subst drops
      show (a.handleKey .space now).2.items = _ ∨ ∃ source drop, _ ∧
        (a.handleKey .space now).2.items = _
      unfold handleKey
      split
      · exact .inl rfl
      · obtain kept | ⟨source, drop, grabbed, elsewhere, moved⟩ := a.space_items now
        · exact .inl kept
        · exact .inr ⟨source, drop, .space now source drop grabbed elsewhere, moved⟩
    · exact .inl (handleKey_items drops)

end Arranger

/-- A list of items has become another one without a loss and without moving pinned items. -/
structure Reordered (items others : List (Item α)) : Prop where
  perm : others.Perm items
  pinned : ∀ (index : Nat) (item : Item α),
    items[index]? = some item → item.sortable = false → others[index]? = some item
  slots : slots others = slots items

/-- A list is no reordering but of itself before anything is moved. -/
theorem Reordered.refl (items : List (Item α)) : Reordered items items :=
  ⟨List.Perm.refl items, fun _ _ there _ => there, rfl⟩

/-- Another move reorders a reordered list. -/
theorem Reordered.moveWithinSlots {items others : List (Item α)} (h : Reordered items others)
    (source drop : Nat) :
    Reordered items (moveWithinSlots (Arrange.slots others) source drop others) where
  perm := (moveWithinSlots_perm _ source drop others).trans h.perm
  pinned := by
    intro index item there pinned
    have outside : index ∉ Arrange.slots others := by
      rw [h.slots]
      exact notMem_slots_of_pinned there pinned
    rw [getElem?_moveWithinSlots_of_notMem outside]
    exact h.pinned index item there pinned
  slots := by rw [slots_moveWithinSlots, h.slots]

/-- Every operation reorders the items at most. -/
theorem Reordered.perform {items : List (Item α)} {a : Arranger α} (h : Reordered items a.items)
    (operation : Operation) : Reordered items (a.perform operation).items := by
  obtain kept | ⟨source, drop, -, moved⟩ := a.perform_items operation
  · rw [kept]
    exact h
  · rw [moved]
    exact h.moveWithinSlots source drop

/-- **Reordering loses nothing and never moves a pinned item.** After any run the items are those of
the start in some order, every pinned item stands with its mark where it stood, the slots are those
of the start, and the next operation changes the items only if it lands an item elsewhere. -/
theorem reordering_loses_nothing (config : Config) (items : List (Item α))
    (operations : List Operation) :
    let a := Arranger.run { config, items } operations
    a.items.Perm items ∧
      (∀ (index : Nat) (item : Item α), items[index]? = some item → item.sortable = false →
        a.items[index]? = some item) ∧
      slots a.items = slots items ∧
      ∀ operation, (a.perform operation).items ≠ a.items →
        ∃ source drop, Lands a operation source drop := by
  intro a
  have reordered : Reordered items a.items :=
    @Arranger.run_induction α (fun b => Reordered items b.items) _ (Reordered.refl items)
      (fun _ operation kept => kept.perform operation) operations
  refine ⟨reordered.perm, reordered.pinned, reordered.slots, ?_⟩
  intro operation changed
  obtain kept | ⟨source, drop, lands, -⟩ := a.perform_items operation
  · exact absurd kept changed
  · exact ⟨source, drop, lands⟩

/-- A pinned item between three sortable ones. -/
def pinnedSecond : List (Item Nat) :=
  [⟨1, true⟩, ⟨2, false⟩, ⟨3, true⟩, ⟨4, true⟩]

/-- The keys that grab the first sortable item and take it two positions on. -/
def carryTwoPositions : List Operation :=
  [.press .down 0, .press .space 1, .press .down 2, .press .down 3]

/-- The key that drops the item changes the order, and the pinned item stays. -/
theorem reordering_loses_nothing_carried :
    let carried := Arranger.run { config := {}, items := pinnedSecond } carryTwoPositions
    let dropped := carried.perform (.press .space 4)
    dropped.items = [⟨3, true⟩, ⟨2, false⟩, ⟨4, true⟩, ⟨1, true⟩] ∧
      dropped.items.Perm pinnedSecond ∧ dropped.items[1]? = some ⟨2, false⟩ ∧
      ∃ source drop, Lands carried (.press .space 4) source drop := by
  intro carried dropped
  obtain ⟨-, -, -, lands⟩ := reordering_loses_nothing {} pinnedSecond carryTwoPositions
  obtain ⟨perm, pinned, -⟩ :=
    reordering_loses_nothing {} pinnedSecond (carryTwoPositions ++ [.press .space 4])
  exact ⟨by decide, perm, pinned 1 ⟨2, false⟩ rfl rfl, lands (.press .space 4) (by decide)⟩

end Picklist.Arrange
