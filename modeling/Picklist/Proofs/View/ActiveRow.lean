import Picklist.Proofs.Arrange.Resuming
import Picklist.Proofs.View.RowBoxes

/-!
# The row of the item a gesture is about

Three numberings meet in the view of an arranged list: list indices, positions among the sortable
items, and rows on display. The row that is kept on display is found by the role of its item, and
the roles follow the item through a gesture and beyond it, although nothing but positions is stored.
So as long as nothing is dragged that row is the one of the item the gesture is about.
-/

set_option autoImplicit false

namespace Picklist.View

open Terminal
open Arrange (Arranger Config Drops Gesture GivesUp InHand Item Operation Plays Role slots)

variable {α : Type}

/-- The items kept on display are those that take part in the gesture. -/
theorem isActive_iff {role : Role} : isActive role = true ↔ role.TakesPart := by
  cases role <;> simp [isActive, Role.TakesPart]

section

variable {a : Arranger α}

variable (theme : Theme) (label : α → String)

variable (undragged : ∀ source drop, a.gesture ≠ .dragging source drop)

include undragged

/-- Outside a drag by the pointer the active row is the first whose item takes part. -/
theorem activeRow_of_undragged :
    (arrangeView a.snapshot theme label).activeRow =
      (rowOrder a.snapshot).findIdx? fun index => isActive (a.snapshot.role index) := by
  unfold arrangeView
  dsimp only
  split
  · rename_i dragging
    exact absurd dragging (undragged _ _)
  · rfl

/-- The active row shows the item that takes part. -/
theorem activeRow_of_plays {role : Role} (takesPart : role.TakesPart) {index : Nat} {item : Item α}
    (plays : Plays a role index item) :
    ∃ row, (arrangeView a.snapshot theme label).activeRow = some row ∧
      (arrangeView a.snapshot theme label).rows[row]? =
        some (index, itemLine theme role (label item.value)) := by
  obtain ⟨there, rfl⟩ := plays
  have inside : index < a.items.length := (List.getElem?_eq_some_iff.mp there).1
  have shown : index ∈ rowOrder a.snapshot := (rowOrder_perm a).mem_iff.mpr (by simpa using inside)
  have active := activeRow_of_undragged theme label undragged
  cases found : (arrangeView a.snapshot theme label).activeRow with
  | none =>
    rw [found] at active
    have still := List.findIdx?_eq_none_iff.mp active.symm index shown
    rw [isActive_iff.mpr takesPart] at still
    cases still
  | some row =>
    rw [found] at active
    obtain ⟨bound, here, -⟩ := List.findIdx?_eq_some_iff_getElem.mp active.symm
    -- no other index takes part, so the first row that does is the one of the item
    have same : (rowOrder a.snapshot)[row] = index :=
      Arranger.takesPart_unique (isActive_iff.mp here) takesPart
    refine ⟨row, rfl, ?_⟩
    rw [rows_getElem?, List.getElem?_eq_getElem bound, same, Option.bind_some, there]
    rfl

omit undragged in
/-- At rest no row is active. -/
theorem activeRow_of_idle (idle : a.gesture = .idle) :
    (arrangeView a.snapshot theme label).activeRow = none := by
  have undragged (source drop : Nat) : a.gesture ≠ .dragging source drop := by
    rw [idle]
    exact Gesture.noConfusion
  rw [activeRow_of_undragged theme label undragged, List.findIdx?_eq_none_iff]
  intro index _
  rw [← Bool.not_eq_true, isActive_iff, Arranger.takesPart_iff, idle]
  rintro ⟨position, none, -⟩
  cases none

end

/-- **Roles and focus follow the item.** After any run the pinned role is that of the items which
are not sortable, at most one list index has a role that is neither the pinned nor the normal one,
and except at rest there is one.

While a move is in progress the moving item is the one in hand, that is the one that was taken last
by a press or by the key, and it is displayed in the slot of its landing place. Right after a drop
the same item is settling. When the item that takes part is dropped, or a move or a selection of it
is given up, the next arrow along the axis brings the focus to it, whatever ticks and other
operations that neither press an item nor go along the axis come between. The view keeps its row on
display unless the pointer drags it; at rest no row is active.

The values of the items may be any. If each item has a value of its own, it is the very item that
keeps the part. -/
theorem roles_follow_the_item (config : Config) (items : List (Item α))
    (operations : List Operation) (theme : Theme) (label : α → String) :
    let start : Arranger α := { config, items }
    let a := start.run operations
    let s := a.snapshot
    let view := arrangeView s theme label
    (∀ (index : Nat) (item : Item α), a.items[index]? = some item →
      (s.role index = .pinned ↔ item.sortable = false)) ∧
      (∀ index other, (s.role index).TakesPart → (s.role other).TakesPart → index = other) ∧
      (a.gesture ≠ .idle → ∃! index, (s.role index).TakesPart) ∧
      (∀ source drop, a.gesture.move? = some (source, drop) →
        ∃ (index : Nat) (item : Item α) (slot : Nat),
          InHand start operations item ∧ Plays a .moving index item ∧
            (slots a.items)[drop]? = some slot ∧ s.order[slot]? = some index ∧
            s.displayItems[slot]? = some (index, item)) ∧
      (∀ index item operation, Plays a .moving index item → Drops a operation →
        ∃ landed, Plays (a.perform operation) .settling landed item) ∧
      (∀ role index item, role.TakesPart → Plays a role index item →
        (∀ operation between key direction now, Drops a operation ∨ GivesUp a operation →
          (∀ other ∈ between, Operation.Waits config.orientation other) →
          Arranger.direction? config.orientation key = some direction →
            let rested := (a.perform operation).run between
            rested.gesture.Rests ∧
              ∃ focus, Plays (rested.perform (.press key now)) .focused focus item) ∧
        ((∀ source drop, a.gesture ≠ .dragging source drop) →
          ∃ row, view.activeRow = some row ∧
            view.rows[row]? = some (index, itemLine theme role (label item.value)))) ∧
      (a.gesture = .idle → view.activeRow = none) := by
  intro start a s view
  have start_within : Arrange.Within (Arrange.sortableCount items) start := .start config items
  have within : Arrange.Within (Arrange.sortableCount items) a := start_within.run operations
  have settings : a.config = config := Arranger.run_config start operations
  refine ⟨fun _ _ => Arranger.role_eq_pinned_iff, fun _ _ => Arranger.takesPart_unique,
    within.existsUnique_takesPart, ?_, ?_, ?_, activeRow_of_idle theme label⟩
  · intro source drop moving
    obtain ⟨item, inHand, subject⟩ :=
      Arranger.inHand_of_moving start_within rfl operations moving
    obtain ⟨index, plays⟩ := Arranger.exists_plays subject
    have plays : Plays a .moving index item := by
      rw [(Gesture.of_move? moving).2] at plays
      exact plays
    obtain ⟨slot, lands, shown, displayed⟩ := Arranger.displayed_of_moving within moving plays
    exact ⟨index, item, slot, inHand, plays, lands, shown, displayed⟩
  · intro index item operation plays drops
    exact Arranger.settles_of_drops within plays drops
  · intro role index item takesPart plays
    refine ⟨?_, fun undragged => activeRow_of_plays theme label undragged takesPart plays⟩
    intro operation between key direction now lets_go waits along
    rw [← settings] at waits along
    obtain ⟨subject, -⟩ := plays.subject? takesPart
    exact Arranger.focus_returns within lets_go subject waits along now

/-- The last of three sortable items is grabbed and carried over the end. -/
def carriedOverTheEnd : List Operation :=
  Arrange.focusOnLast ++ .press .space 1 :: Arrange.overTheEnd

/-- It is dropped among the others, and the focus comes back to it once it has settled. -/
theorem roles_follow_the_item_dropped :
    let a := Arranger.run { config := {}, items := Arrange.pinnedSecond } carriedOverTheEnd
    let view := arrangeView a.snapshot default (toString : Nat → String)
    let dropped := a.perform (.press .space 8)
    let settled := dropped.run [.tick 200]
    a.gesture = .grabbed 2 1 ∧ dropped.items[2]? = some ⟨4, true⟩ ∧
      (∃ landed, Plays dropped .settling landed ⟨4, true⟩) ∧
      (∃ focus, Plays (settled.perform (.press .down 300)) .focused focus ⟨4, true⟩) ∧
      ∃ row, view.activeRow = some row ∧
        view.rows[row]? = some (3, itemLine default .moving "4") := by
  intro a view dropped settled
  obtain ⟨-, -, -, -, settles, follows, -⟩ :=
    roles_follow_the_item {} Arrange.pinnedSecond carriedOverTheEnd default
      (toString : Nat → String)
  have gesture : a.gesture = .grabbed 2 1 := by decide
  have plays : Plays a .moving 3 ⟨4, true⟩ := ⟨by decide, by decide⟩
  have drops : Drops a (.press .space 8) := .space 8 ⟨2, 1, gesture⟩
  obtain ⟨returns, shows⟩ := follows .moving 3 ⟨4, true⟩ ⟨by decide, by decide⟩ plays
  have undragged (source drop : Nat) : a.gesture ≠ .dragging source drop := by
    rw [gesture]
    exact Gesture.noConfusion
  have waits : ∀ other ∈ [Operation.tick 200], other.Waits .vertical := by
    simp [Operation.Waits, Operation.step?]
  obtain ⟨-, focused⟩ := returns (.press .space 8) [.tick 200] .down .forward 300 (.inl drops)
    waits rfl
  exact ⟨gesture, by decide, settles 3 ⟨4, true⟩ (.press .space 8) plays drops, focused,
    shows undragged⟩

end Picklist.View
