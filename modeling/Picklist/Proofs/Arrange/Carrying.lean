import Picklist.Proofs.Arrange.HeldSamples
import Picklist.Proofs.Arrange.Midpoint
import Picklist.Proofs.Arrange.Reorder
import Picklist.Proofs.Walk

/-!
# Carrying an item by keys

An item that is grabbed by key is carried by the arrow keys of the axis. Its landing place walks
through the cycle of positions, so only the numbers of steps in either direction count; arrows of
the other axis and ticks do nothing. Where the item lands and what the commit answers depends on the
two ends of the move alone, and so is the same for a pointer that drags the item there.
-/

set_option autoImplicit false

namespace Picklist.Arrange

variable {α : Type}

/-! ## Keys -/

/-- The key is an arrow, of either axis. -/
def Key.IsArrow (key : Key) : Prop :=
  key ≠ .space ∧ key ≠ .escape

/-- A key either grabs, gives up or is an arrow. -/
theorem Key.space_or_escape_or_isArrow (key : Key) :
    key = .space ∨ key = .escape ∨ key.IsArrow := by
  unfold IsArrow
  cases key <;> simp

/-- Arrow keys and ticks, which leave a grabbed item in hand. -/
def Operation.Carries : Operation → Prop
  | press key _ => key.IsArrow
  | tick _ => True
  | _ => False

/-- The step that an operation takes along the axis of the list. -/
def Operation.step? (orientation : Orientation) : Operation → Option Direction
  | press key _ => Arranger.direction? orientation key
  | _ => none

/-- The steps that operations take along the axis of the list. -/
def stepsAlong (orientation : Orientation) (operations : List Operation) : List Direction :=
  operations.filterMap (Operation.step? orientation)

namespace Arranger

variable {a b : Arranger α} {source drop : Nat}

/-- Only arrows have a direction. -/
theorem isArrow_of_direction {orientation : Orientation} {key : Key} {direction : Direction}
    (along : direction? orientation key = some direction) : key.IsArrow := by
  constructor <;> rintro rfl <;> cases orientation <;> cases along

/-- An arrow along the axis takes a step. -/
theorem handleKey_of_direction {key : Key} {direction : Direction} (some_sortable : a.total ≠ 0)
    (along : direction? a.config.orientation key = some direction) (now : Nat) :
    a.handleKey key now = (none, a.arrow direction) := by
  obtain ⟨no_space, no_escape⟩ := isArrow_of_direction along
  unfold handleKey
  rw [if_neg some_sortable]
  split
  · exact absurd rfl no_escape
  · exact absurd rfl no_space
  · rw [along]

/-- An arrow across the axis does nothing. -/
theorem handleKey_of_across {key : Key} (arrow : key.IsArrow)
    (across : direction? a.config.orientation key = none) (now : Nat) :
    a.handleKey key now = (none, a) := by
  unfold handleKey
  split
  · rfl
  · split
    · exact absurd rfl arrow.2
    · exact absurd rfl arrow.1
    · rw [across]

/-- Where nothing can be moved no key does anything. -/
theorem handleKey_of_unsortable (none_sortable : a.total = 0) (key : Key) (now : Nat) :
    a.handleKey key now = (none, a) :=
  if_pos none_sortable

/-- Escape gives up what was begun. -/
theorem handleKey_escape (some_sortable : a.total ≠ 0) (now : Nat) :
    a.handleKey .escape now = (none, a.cancel) :=
  if_neg some_sortable

/-- The space bar grabs, drops or selects. -/
theorem handleKey_space (some_sortable : a.total ≠ 0) (now : Nat) :
    a.handleKey .space now = a.space now := by
  unfold handleKey
  rw [if_neg some_sortable]

/-! ## The landing place of a grabbed item -/

/-- An arrow carries a grabbed item to the next position, and over the ends of the list. -/
theorem arrow_grabbed (grabbed : a.gesture = .grabbed source drop) (some_sortable : 0 < a.total)
    (direction : Direction) :
    a.arrow direction =
      { a with
        gesture := .grabbed source (placeAfter a.total drop direction.stride)
        announcement := some (.moved (placeAfter a.total drop direction.stride) a.total) } := by
  unfold arrow
  dsimp only
  rw [grabbed]
  dsimp only
  rw [direction.stepWrapping_eq drop some_sortable]

/-- Where nothing is dragged, a tick does no more than end settling; the throttle apart, nothing
else changes. -/
theorem tick_of_undragged (still : ∀ source drop, a.gesture ≠ .dragging source drop) (now : Nat) :
    ∃ samples, (a.tick now).2 = { a with samples } ∨
      (∃ position deadline, a.gesture = .settling position deadline) ∧
        (a.tick now).2 = { a with samples, gesture := .idle } := by
  have ticked : (a.tick now).2 =
      { (a.finishSettling now).2 with samples := (a.samples.poll now).2 } :=
    tick_atRest still a.samples now
  refine ⟨(a.samples.poll now).2, ?_⟩
  rw [ticked]
  unfold finishSettling
  split
  · rename_i position deadline settling
    split
    · exact .inr ⟨⟨position, deadline, settling⟩, rfl⟩
    · exact .inl rfl
  · exact .inl rfl

/-- Time does not move a grabbed item. -/
theorem tick_grabbed (grabbed : a.gesture = .grabbed source drop) (now : Nat) :
    ∃ samples, (a.tick now).2 = { a with samples } := by
  have still (source drop : Nat) : a.gesture ≠ .dragging source drop := by
    rw [grabbed]
    exact Gesture.noConfusion
  obtain ⟨samples, kept | ⟨⟨position, deadline, settling⟩, -⟩⟩ := tick_of_undragged still now
  · exact ⟨samples, kept⟩
  · rw [grabbed] at settling
    cases settling

/-- While an item is carried, its landing place takes the steps along the axis, and besides it only
the throttle and the announcement change. -/
theorem run_carries (grabbed : a.gesture = .grabbed source drop) (inside : drop < a.total)
    {operations : List Operation} (carries : ∀ operation ∈ operations, operation.Carries) :
    ∃ samples announcement, a.run operations =
      { a with
        gesture := .grabbed source (placeAfter a.total drop
          (Direction.distance (stepsAlong a.config.orientation operations)))
        samples, announcement } := by
  have places : 0 < a.total := Nat.zero_lt_of_lt inside
  induction operations generalizing a drop with
  | nil =>
    refine ⟨a.samples, a.announcement, ?_⟩
    show a = { a with gesture := .grabbed source (placeAfter a.total drop 0) }
    rw [placeAfter_zero inside, ← grabbed]
  | cons operation rest ih =>
    obtain ⟨carry, more⟩ := List.forall_mem_cons.mp carries
    show ∃ samples announcement, (a.perform operation).run rest = _
    unfold stepsAlong
    cases operation with
    | press key now =>
      cases along : (Operation.press key now).step? a.config.orientation with
      | none =>
        have stays : a.perform (.press key now) = a :=
          congrArg Prod.snd (handleKey_of_across carry along now)
        rw [stays, List.filterMap_cons_none along]
        exact ih grabbed inside more places
      | some direction =>
        have steps : a.perform (.press key now) = a.arrow direction :=
          congrArg Prod.snd (handleKey_of_direction (by omega) along now)
        rw [steps, arrow_grabbed grabbed places, List.filterMap_cons_some along,
          Direction.distance_cons, ← placeAfter_placeAfter places]
        exact ih rfl (placeAfter_lt places drop _) more places
    | tick now =>
      obtain ⟨samples, ticked⟩ := tick_grabbed grabbed now
      have ticked : a.perform (.tick now) = { a with samples } := ticked
      rw [ticked, List.filterMap_cons_none rfl]
      exact ih grabbed inside more places
    | _ => exact absurd carry id

/-! ## Landing -/

/-- Commits of one move agree, whether keys or the pointer made it. -/
theorem commit_alike (same : SameList a b)
    (moving : a.flushSample.gesture.move? = some (source, drop))
    (moving' : b.flushSample.gesture.move? = some (source, drop)) (now : Nat) :
    (b.commit now).1 = (a.commit now).1 ∧
      (b.commit now).2 = { (a.commit now).2 with samples := (b.commit now).2.samples } := by
  have config : b.flushSample.config = a.flushSample.config := by
    rw [(sameList_flushSample b).config, (sameList_flushSample a).config, same.config]
  have items : b.flushSample.items = a.flushSample.items := by
    rw [(sameList_flushSample b).items, (sameList_flushSample a).items, same.items]
  unfold commit
  dsimp only
  rw [moving, moving']
  dsimp only
  by_cases back : source = drop
  · rw [if_pos back, if_pos back]
    simp [config, items, total]
  · rw [if_neg back, if_neg back]
    simp [config, items, total, values]

/-- A commit of a move gives the items that order. -/
theorem commit_items_of_moving (moving : a.flushSample.gesture.move? = some (source, drop))
    (now : Nat) : (a.commit now).2.items = moveWithinSlots (slots a.items) source drop a.items := by
  have items : a.flushSample.items = a.items := (sameList_flushSample a).items
  unfold commit
  dsimp only
  rw [moving]
  dsimp only
  by_cases back : source = drop
  · rw [if_pos back, back, moveWithinSlots_self]
    exact items
  · rw [if_neg back, ← items]

end Arranger

/-! ## Pointers -/

/-- Some pointer stands before the midpoint of some box, and some other does not. -/
theorem exists_isBeforeMidpoint (orientation : Orientation) (before : Bool) :
    ∃ pointer bounds, orientation.isBeforeMidpoint pointer bounds = before := by
  refine ⟨if before then ⟨0, 0⟩ else ⟨9, 9⟩, ⟨0, 0, 1, 1⟩, ?_⟩
  cases orientation <;> cases before <;> decide +kernel

/-- The pointer can drag an item from any position to any other. -/
theorem exists_motions {items : List (Item α)} {target : Nat} (source : Nat)
    (inside : target < sortableCount items) (orientation : Orientation) :
    ∃ motions, destination? items source (lastHover? orientation motions) = some target := by
  by_cases stays : target = source
  · exact ⟨[], by rw [stays]; rfl⟩
  · -- the pointer goes to the far side of the item that stands there
    obtain ⟨pointer, bounds, side⟩ := exists_isBeforeMidpoint orientation (target < source)
    have slot : target < (slots items).length := by rwa [length_slots]
    have found : positionOf items (slots items)[target] = some target :=
      positionOf_eq_some_iff.mpr (List.getElem?_eq_getElem slot)
    have lands : dropPosition source target (decide (target < source)) = target := by
      rw [dropPosition_eq stays, placeWithout]
      by_cases before : target < source
      · rw [if_neg (by omega), if_pos (by simpa using before), Nat.add_zero]
      · rw [if_pos (by omega), if_neg (by simpa using before), Nat.sub_add_cancel (by omega)]
    refine ⟨[.sample pointer (slots items)[target] bounds 0], ?_⟩
    show landingOf? items source ⟨(slots items)[target], _⟩ = some target
    rw [side, landingOf?, found, Option.map_some, lands, Nat.min_eq_left (by omega)]

/-! ## From the focus to the landing -/

namespace Arranger

variable {a : Arranger α} {focus : Nat}

/-- Where the item in focus lands that is grabbed and carried by the operations. -/
def carriedTo (a : Arranger α) (focus : Nat) (operations : List Operation) : Nat :=
  placeAfter a.total focus (Direction.distance (stepsAlong a.config.orientation operations))

/-- The item in focus is grabbed and carried. -/
theorem run_grab (selecting : a.gesture = .selecting focus) (inside : focus < a.total) (start : Nat)
    {operations : List Operation} (carries : ∀ operation ∈ operations, operation.Carries) :
    ∃ samples announcement, (a.perform (.press .space start)).run operations =
      { a with
        gesture := .grabbed focus (a.carriedTo focus operations)
        samples, announcement } := by
  let grabbed : Arranger α :=
    { a with gesture := .grabbed focus focus, announcement := some (.grabbed focus a.total) }
  have begun : a.perform (.press .space start) = grabbed := by
    show (a.handleKey .space start).2 = grabbed
    rw [handleKey_space (by omega), space, selecting]
  have gesture : grabbed.gesture = .grabbed focus focus := rfl
  rw [begun]
  exact run_carries gesture inside carries

/-- The next press of the key commits the move. -/
theorem handleKey_drop {source drop : Nat} (grabbed : a.gesture = .grabbed source drop)
    (some_sortable : a.total ≠ 0) (now : Nat) :
    a.handleKey .space now = a.commit now ∧ a.flushSample.gesture.move? = some (source, drop) := by
  have resting (source drop : Nat) : a.gesture ≠ .dragging source drop := by
    rw [grabbed]
    exact Gesture.noConfusion
  constructor
  · rw [handleKey_space some_sortable, space, grabbed]
  · rw [flushSample_gesture resting, grabbed]
    rfl

/-- The pointer can drag the item from there to any other position. -/
theorem exists_drag {source target : Nat} (hs : source < a.total) (ht : target < a.total) :
    ∃ (index : Nat) (motions : List Motion), positionOf a.items index = some source ∧
      ((a.beginDrag index).2.run (motions.map Motion.operation)).flushSample.gesture =
        .dragging source target := by
  have slot : source < (slots a.items).length := by rwa [length_slots]
  have found : positionOf a.items (slots a.items)[source] = some source :=
    positionOf_eq_some_iff.mpr (List.getElem?_eq_getElem slot)
  obtain ⟨motions, points⟩ := exists_motions source ht a.config.orientation
  refine ⟨(slots a.items)[source], motions, found, ?_⟩
  have follows := ((follows_beginDrag found).run motions).flushSample
  rw [Option.or_none] at follows
  obtain ⟨drop, dragging, lands⟩ := follows.gesture
  rw [dragging, lands (flushSample_pending _) target points]

end Arranger

/-- **Keys count steps modulo the length.** The item in focus after any run is grabbed by key,
carried by arrows of both axes and ticks, and dropped. It lands as many positions on as there were
more arrows forward than backward along the axis, counted round the sortable items; the others keep
their order, and the pinned ones their place. Arrows across the axis do nothing, and giving up
leaves the items as they were. Every drag by pointer from the focus to the same position has the
same answer and the same result but for the throttle, and there is such a drag. -/
theorem keys_count_steps (config : Config) (items : List (Item α)) (operations : List Operation)
    {focus : Nat}
    (selecting : (Arranger.run { config, items } operations).gesture = .selecting focus)
    {carrying : List Operation} (carries : ∀ operation ∈ carrying, operation.Carries)
    (start finish : Nat) :
    let a := Arranger.run { config, items } operations
    let carried := (a.perform (.press .space start)).run carrying
    let dropped := carried.perform (.press .space finish)
    let steps := stepsAlong config.orientation carrying
    ∃ target : Nat, target < a.total ∧
      (target : Int) = (focus + steps.count .forward - steps.count .backward) % a.total ∧
      Relocated focus target (a.items.filter (·.sortable)) (dropped.items.filter (·.sortable)) ∧
      (∀ (index : Nat) (item : Item α), a.items[index]? = some item → item.sortable = false →
        dropped.items[index]? = some item) ∧
      (∀ key now, key.IsArrow → Arranger.direction? config.orientation key = none →
        carried.handleKey key now = (none, carried)) ∧
      (carried.handleKey .escape finish).2.items = a.items ∧
      (∀ (index : Nat) (motions : List Motion), positionOf a.items index = some focus →
        let dragged := (a.beginDrag index).2.run (motions.map Motion.operation)
        dragged.flushSample.gesture = .dragging focus target →
          (dragged.commit finish).1 = (carried.handleKey .space finish).1 ∧
            (dragged.commit finish).2 =
              { dropped with samples := (dragged.commit finish).2.samples }) ∧
      ∃ (index : Nat) (motions : List Motion), positionOf a.items index = some focus ∧
        ((a.beginDrag index).2.run (motions.map Motion.operation)).flushSample.gesture =
          .dragging focus target := by
  intro a carried dropped steps
  have within : Within (sortableCount items) a := (Within.start config items).run operations
  have settings : a.config = config := Arranger.run_config _ operations
  have inside : focus < a.total := by
    rw [within.total]
    exact within.first_lt selecting rfl
  have places : 0 < a.total := Nat.zero_lt_of_lt inside
  let target := a.carriedTo focus carrying
  have lands : target < a.total := placeAfter_lt places focus _
  obtain ⟨samples, announcement, carried_eq⟩ := Arranger.run_grab selecting inside start carries
  have carried_eq : carried = { a with gesture := .grabbed focus target, samples, announcement } :=
    carried_eq
  have same : SameList a carried := by rw [carried_eq]; exact ⟨rfl, rfl⟩
  have total : carried.total = a.total := by rw [carried_eq]; rfl
  have grabbed : carried.gesture = .grabbed focus target := by rw [carried_eq]
  obtain ⟨drops, moving⟩ := Arranger.handleKey_drop grabbed (by omega) finish
  have dropped_eq : dropped = (carried.commit finish).2 := congrArg Prod.snd drops
  have order : dropped.items = moveWithinSlots (slots a.items) focus target a.items := by
    rw [dropped_eq, Arranger.commit_items_of_moving moving, same.items]
  refine ⟨target, lands, ?_, ?_, ?_, ?_, ?_, ?_, Arranger.exists_drag inside lands⟩
  · rw [show target = a.carriedTo focus carrying from rfl, Arranger.carriedTo,
      cast_placeAfter places, settings, Direction.distance, Int.add_sub_assoc]
  · rw [order]
    exact relocated_sortable inside lands
  · intro index item there pinned
    rw [order, getElem?_moveWithinSlots_of_notMem (notMem_slots_of_pinned there pinned)]
    exact there
  · intro key now arrow across
    rw [← settings, ← same.config] at across
    exact Arranger.handleKey_of_across arrow across now
  · rw [Arranger.handleKey_items (by decide), same.items]
  · intro index motions found dragged dragging
    have kept : SameList a dragged :=
      ((Arranger.follows_beginDrag found).run motions).same
    have moving' : dragged.flushSample.gesture.move? = some (focus, target) := by
      rw [dragging]
      rfl
    have alike : SameList carried dragged :=
      ⟨kept.config.trans same.config.symm, kept.items.trans same.items.symm⟩
    obtain ⟨answer, result⟩ := Arranger.commit_alike alike moving moving' finish
    rw [drops, dropped_eq]
    exact ⟨answer, result⟩

/-- The last of three sortable items gets the focus. -/
def focusOnLast : List Operation :=
  [.press .up 0]

/-- It is carried over the end and one position back, with an arrow of the other axis between. -/
def overTheEnd : List Operation :=
  [.press .down 2, .press .left 3, .tick 4, .press .down 5, .press .down 6, .press .up 7]

/-- The item comes to stand second, and the pinned one stays where it is. -/
theorem keys_count_steps_wrapped :
    let a := Arranger.run { config := {}, items := pinnedSecond } focusOnLast
    let carried := (a.perform (.press .space 1)).run overTheEnd
    let dropped := carried.perform (.press .space 8)
    a.gesture = .selecting 2 ∧
      dropped.items = [⟨1, true⟩, ⟨2, false⟩, ⟨4, true⟩, ⟨3, true⟩] ∧
      ∃ target : Nat, (target : Int) = (2 + 3 - 1) % 3 ∧
        Relocated 2 target (a.items.filter (·.sortable)) (dropped.items.filter (·.sortable)) := by
  intro a carried dropped
  have selecting : a.gesture = .selecting 2 := by decide
  have carries : ∀ operation ∈ overTheEnd, operation.Carries := by
    simp [overTheEnd, Operation.Carries, Key.IsArrow]
  obtain ⟨target, -, place, relocated, -⟩ :=
    keys_count_steps {} pinnedSecond focusOnLast selecting carries 1 8
  exact ⟨selecting, by decide, target, place, relocated⟩

end Picklist.Arrange
