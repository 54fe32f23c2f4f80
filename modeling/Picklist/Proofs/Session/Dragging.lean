import Picklist.Proofs.Arrange.HeldSamples
import Picklist.Proofs.Arrange.Relocation
import Picklist.Proofs.Arrange.Reorder
import Picklist.Proofs.Session.Painted

/-!
# A drag with the mouse

The item that is pressed lands on the row over which it was dragged last. The pointer counts as
standing on that side of a row from which the item lands on the row itself, so every sample points
at the position of its row; which of the samples are held back and which are applied makes no
difference; and painting again does not move the rows. What is dropped then stands at that position,
and the other sortable items keep their order.
-/

set_option autoImplicit false

namespace Picklist.Session

open Terminal
open Arrange (Arranger Hover Item positionOf sortableCount)

variable {α : Type}

namespace Event

/-- The events of a drag: the mouse moves with the button down, time passes, or the session is
painted on a screen of the given size. -/
inductive Drags (screen : Screen) : Event → Prop where
  | drag (column row now : Nat) : Drags screen (.mouse .drag column row now)
  | tick (now : Nat) : Drags screen (.tick now)
  | redraw (other : Screen) (size : other.area = screen.area) : Drags screen (.draw other)

/-- The list index of the item over whose row an event drags. -/
def over? (under : Nat → Nat → Option Nat) : Event → Option Nat
  | .mouse .drag column row _ => under column row
  | _ => none

end Event

/-- The list index of the item over whose row was dragged last. -/
def lastOver? (under : Nat → Nat → Option Nat) (events : List Event) : Option Nat :=
  (events.filterMap (Event.over? under)).getLast?

/-- The last item pointed over in some events is that of the others, or else that of the first. -/
theorem lastOver?_cons (under : Nat → Nat → Option Nat) (event : Event) (rest : List Event) :
    lastOver? under (event :: rest) = (lastOver? under rest).or (event.over? under) := by
  unfold lastOver?
  cases found : event.over? under with
  | none => rw [List.filterMap_cons_none found, Option.or_none]
  | some index => rw [List.filterMap_cons_some found, List.getLast?_cons, Option.or_some]

/-! ## Where samples point to -/

/-- The sample over the row of an item while the item from position `source` is dragged. -/
def aim (items : List (Item α)) (source index : Nat) : Hover :=
  ⟨index, (positionOf items index).all (decide <| · ≤ source)⟩

/-- A sample over the row of a sortable item points at its position. -/
theorem landingOf?_aim {items : List (Item α)} {index position : Nat}
    (sortable : positionOf items index = some position) (source : Nat) :
    Arrange.landingOf? items source (aim items source index) = some position := by
  have bound : position < sortableCount items := Arrange.positionOf_lt sortable
  unfold Arrange.landingOf? aim Arrange.dropPosition
  rw [sortable]
  simp only [Option.map_some, Option.all_some, Option.some.injEq, decide_eq_true_eq]
  split
  · omega
  · split <;> split <;> omega

namespace Sorting

variable {s : Sorting α} {screen : Screen}

/-- In a vertical list a sample over a box aims at the item of that box. -/
theorem sample_eq (vertical : s.arranger.config.orientation = .vertical) {source drop : Nat}
    (dragging : s.arranger.gesture = .dragging source drop) (box : View.RowBox) (column : Nat) :
    s.sample box column = aim s.arranger.items source box.index := by
  unfold sample aim
  rw [vertical, dragging]
  cases positionOf s.arranger.items box.index <;> rfl

/-! ## During a drag -/

/-- A drag of the item from position `source` that began on the list `start`. The cells belong to
rows as `under` tells, and `last` is the item over whose row was dragged last. -/
structure Carries (start : Arranger α) (source : Nat) (screen : Screen)
    (under : Nat → Nat → Option Nat) (last : Option Nat) (s : Sorting α) : Prop where
  painted : Painted screen s
  under : s.rowAt? (rowArea .vertical screen) = under
  follows : Arranger.Follows start source (last.map (aim start.items source)) s.arranger

namespace Carries

variable {start : Arranger α} {source : Nat} {under : Nat → Nat → Option Nat} {last : Option Nat}

/-- The list may change its landing place and its throttle. -/
theorem withArranger (h : Carries start source screen under last s) {a : Arranger α}
    {next : Option Nat}
    (follows : Arranger.Follows start source (next.map (aim start.items source)) a) :
    Carries start source screen under next { s with arranger := a } := by
  have items : a.items = s.arranger.items := by rw [follows.same.items, h.follows.same.items]
  have config : a.config = s.arranger.config := by rw [follows.same.config, h.follows.same.config]
  have same : SameRows s { s with arranger := a } := ⟨config, rfl, rfl⟩
  refine ⟨h.painted.congr same items, ?_, follows⟩
  rw [← h.under]
  unfold rowAt?
  rw [items]

/-- Pressing the row of a sortable item begins a drag. -/
theorem press (painted : Painted screen s) {column row index : Nat}
    (pressed : s.rowAt? (rowArea .vertical screen) column row = some index)
    (sortable : positionOf s.arranger.items index = some source) (now : Nat) :
    Carries s.arranger source screen (s.rowAt? (rowArea .vertical screen)) none
      (s.handleMouse .press column row now) := by
  have hit := painted.hit_eq column row
  rw [pressed, Option.map_some] at hit
  have items := (Arranger.sameList_beginDrag s.arranger index).items
  have config := (Arranger.sameList_beginDrag s.arranger index).config
  unfold handleMouse
  rw [hit]
  dsimp only
  refine ⟨painted.congr ⟨config, rfl, rfl⟩ items, ?_, Arranger.follows_beginDrag sortable⟩
  unfold rowAt?
  rw [items]

/-- A drag goes on to follow the pointer. -/
theorem drag (h : Carries start source screen under last s) (column row now : Nat) :
    Carries start source screen under ((under column row).or last)
      (s.handleMouse .drag column row now) := by
  have hit := h.painted.hit_eq column row
  rw [h.under] at hit
  unfold handleMouse
  rw [hit]
  cases under column row with
  | none => exact h
  | some index =>
    obtain ⟨drop, dragging, -⟩ := h.follows.gesture
    dsimp only [Option.map_some]
    rw [sample_eq h.painted.vertical dragging, h.follows.same.items]
    exact h.withArranger (h.follows.hover _ now)

/-- Every event of a drag lets it go on to follow the pointer. -/
theorem perform (h : Carries start source screen under last s) {event : Event}
    (drags : event.Drags screen) :
    Carries start source screen under ((event.over? under).or last) (s.perform event) := by
  cases drags with
  | drag column row now => exact h.drag column row now
  | tick now => exact h.withArranger (h.follows.tick now)
  | redraw other size =>
    obtain ⟨drop, dragging, -⟩ := h.follows.gesture
    show Carries start source screen under last (s.draw other).2
    rw [h.painted.redraw dragging size]
    exact h

/-- All events of a drag let it go on to follow the pointer. -/
theorem run (h : Carries start source screen under last s) {events : List Event}
    (drags : ∀ event ∈ events, event.Drags screen) :
    Carries start source screen under ((lastOver? under events).or last) (s.run events) := by
  induction events generalizing s last with
  | nil => exact h
  | cons event rest ih =>
    obtain ⟨first, others⟩ := List.forall_mem_cons.mp drags
    rw [run_cons, lastOver?_cons, Option.or_assoc]
    exact ih (h.perform first) others

/-- Without a row the item stays. -/
theorem release_nowhere (h : Carries start source screen under none s) (now : Nat) :
    (s.commit now).arranger.items = start.items := by
  have stays : Arrange.destination? start.items source none = some source := rfl
  have landed := congrArg Prod.snd (h.follows.commit stays now)
  unfold Arrange.land at landed
  rw [if_pos rfl] at landed
  exact landed

/-- The item lands at the position of the row over which it was dragged last. -/
theorem release (h : Carries start source screen under last s) {target position : Nat}
    (inside : source < sortableCount start.items) (dragged : last = some target)
    (sortable : positionOf start.items target = some position) (now : Nat) :
    Arrange.Reordered start.items (s.commit now).arranger.items ∧
      Arrange.Relocated source position (start.items.filter (·.sortable))
        ((s.commit now).arranger.items.filter (·.sortable)) := by
  have points : Arrange.destination? start.items source
      (last.map (aim start.items source)) = some position := by
    rw [dragged]
    exact landingOf?_aim sortable source
  have landed : (s.commit now).arranger.items =
      (Arrange.land start.items source position).2 :=
    congrArg Prod.snd (h.follows.commit points now)
  rw [landed]
  unfold Arrange.land
  split
  · rename_i same
    subst same
    exact ⟨.refl _, .refl _ _⟩
  · have reordered : Arrange.Reordered start.items start.items := .refl _
    exact ⟨reordered.moveWithinSlots source position,
      Arrange.relocated_sortable inside (Arrange.positionOf_lt sortable)⟩

end Carries

/-! ## Without a drag -/

/-- Pressing elsewhere does nothing. -/
theorem press_elsewhere (painted : Painted screen s) {column row : Nat}
    (elsewhere : ∀ index, s.rowAt? (rowArea .vertical screen) column row = some index →
      positionOf s.arranger.items index = none) (now : Nat) :
    s.handleMouse .press column row now = s := by
  have hit := painted.hit_eq column row
  unfold handleMouse
  rw [hit]
  cases pressed : s.rowAt? (rowArea .vertical screen) column row with
  | none => rfl
  | some index =>
    dsimp only [Option.map_some]
    rw [Arranger.beginDrag_of_pinned (elsewhere index pressed)]

/-- Nothing is being moved, and the items are the given ones. -/
structure Rests (items : List (Item α)) (s : Sorting α) : Prop where
  still : s.arranger.gesture.move? = none
  items : s.arranger.items = items

namespace Rests

variable {items : List (Item α)}

/-- A list at rest is not dragged. -/
theorem resting (h : Rests items s) (source drop : Nat) :
    s.arranger.gesture ≠ .dragging source drop := by
  intro dragging
  have still := h.still
  rw [dragging] at still
  cases still

/-- Pointer drags leave a list at rest alone. -/
theorem drag (h : Rests items s) (column row now : Nat) :
    Rests items (s.handleMouse .drag column row now) := by
  unfold handleMouse
  dsimp only
  split
  · unfold Arranger.hover
    split
    · rename_i source drop dragging
      exact absurd dragging (h.resting source drop)
    · exact h
  · exact h

/-- Ticks leave a list at rest alone. -/
theorem tick (h : Rests items s) (now : Nat) : Rests items (s.tick now) := by
  have ticked : (s.arranger.tick now).2 =
      { (s.arranger.finishSettling now).2 with samples := (s.arranger.samples.poll now).2 } :=
    Arranger.tick_atRest h.resting s.arranger.samples now
  constructor
  · show (s.arranger.tick now).2.gesture.move? = none
    rw [ticked]
    unfold Arranger.finishSettling
    dsimp only
    split
    · split
      · rfl
      · exact h.still
    · exact h.still
  · exact (Arranger.sameList_tick s.arranger now).items.trans h.items

/-- Every event of a drag leaves a list at rest alone. -/
theorem perform (h : Rests items s) {event : Event} (drags : event.Drags screen) :
    Rests items (s.perform event) := by
  cases drags with
  | drag column row now => exact h.drag column row now
  | tick now => exact h.tick now
  | redraw other size => exact ⟨h.still, h.items⟩

/-- All events of a drag leave a list at rest alone. -/
theorem run (h : Rests items s) {events : List Event}
    (drags : ∀ event ∈ events, event.Drags screen) : Rests items (s.run events) := by
  induction events generalizing s with
  | nil => exact h
  | cons event rest ih =>
    obtain ⟨first, others⟩ := List.forall_mem_cons.mp drags
    exact ih (h.perform first) others

/-- Letting go of nothing moves nothing. -/
theorem release (h : Rests items s) (now : Nat) : (s.commit now).arranger.items = items := by
  have kept : s.arranger.flushSample.gesture = s.arranger.gesture :=
    Arranger.flushSample_gesture h.resting
  have same : s.arranger.flushSample.items = items := by
    rw [(Arranger.sameList_flushSample s.arranger).items, h.items]
  have still := h.still
  rw [← kept] at still
  have out := s.arranger.landing_commit now
  show (s.arranger.commit now).2.items = items
  generalize s.arranger.commit now = result at out ⊢
  cases out with
  | still => exact same
  | returned source moving =>
    rw [still] at moving
    cases moving
  | dropped source drop moving =>
    rw [still] at moving
    cases moving

end Rests

end Sorting

/-- The sortable item at a position stands at its list index. -/
theorem getElem?_filter_sortable {items : List (Item α)} {index position : Nat}
    (sortable : positionOf items index = some position) :
    (items.filter (·.sortable))[position]? = items[index]? := by
  have slot := Arrange.positionOf_eq_some_iff.mp sortable
  have read : ((items.filter (·.sortable)).map some)[position]? = some items[index]? := by
    rw [← Arrange.map_getElem?_slots, List.getElem?_map, slot, Option.map_some]
  rw [List.getElem?_map] at read
  obtain ⟨item, found, there⟩ := Option.map_eq_some_iff.mp read
  rw [found, ← there]

/-- **A drag with the mouse puts the item where the pointer is.** A vertical list is painted while
no item is moved by key, and its order is the same when the mouse is pressed. The cells then belong
to rows as `under` tells, and the line in the row of a cell is that of its item.

If the mouse is pressed on the row of a sortable item, dragged while time passes and the session is
painted again on a screen of the same size, and released, then: without a row under the drags the
items are as before; if the drags were last over the row of a sortable item, the pressed item has
the position of that item, the other sortable items keep their order, and pinned ones stay where
they are.

If the mouse is pressed elsewhere while nothing is being moved, the items are as before. -/
theorem drag_lands_under_pointer (before : Sorting α) (screen : Screen) (since during : List Event)
    (column row pressedAt dropColumn dropRow releasedAt : Nat)
    (vertical : before.arranger.config.orientation = .vertical)
    (ungrabbed : ∀ source drop, before.arranger.gesture ≠ .grabbed source drop)
    (undrawn : ∀ event ∈ since, ∀ screen, event ≠ .draw screen)
    (unchanged : ((before.draw screen).2.run since).arranger.items = before.arranger.items)
    (drags : ∀ event ∈ during, event.Drags screen) :
    let items := before.arranger.items
    let drawn := (before.draw screen).2
    let ready := drawn.run since
    let dropped := ((ready.handleMouse .press column row pressedAt).run during).handleMouse .release
      dropColumn dropRow releasedAt
    let under := drawn.rowAt? (rowArea .vertical screen)
    (∀ column row index, under column row = some index → ∃ item, items[index]? = some item ∧
      (before.view.lines before.theme drawn.offset)[row - (rowArea .vertical screen).y]? =
        some (View.itemLine before.theme (before.arranger.snapshot.role index)
          (before.label item.value))) ∧
    (∀ index source, under column row = some index → positionOf items index = some source →
      (lastOver? under during = none → dropped.arranger.items = items) ∧
      ∀ target position, lastOver? under during = some target →
        positionOf items target = some position →
        (dropped.arranger.items.filter (·.sortable))[position]? = items[index]? ∧
          (dropped.arranger.items.filter (·.sortable)).eraseIdx position =
            (items.filter (·.sortable)).eraseIdx source ∧
          Arrange.Reordered items dropped.arranger.items) ∧
    ((∀ index, under column row = some index → positionOf items index = none) →
      ready.arranger.gesture.move? = none → dropped.arranger.items = items) := by
  intro items drawn ready dropped under
  have painted : Sorting.Painted screen drawn := Sorting.painted_draw vertical ungrabbed screen
  have same : Sorting.SameRows drawn ready := drawn.sameRows_run undrawn
  have listed : ready.arranger.items = items := unchanged
  have shown : Sorting.Painted screen ready := painted.congr same listed
  have rows : ready.rowAt? (rowArea .vertical screen) = under := by
    unfold under Sorting.rowAt?
    rw [same.offset, unchanged]
    rfl
  refine ⟨?lines, ?sortable, ?other⟩
  case lines =>
    intro column row index found
    unfold under Sorting.rowAt? at found
    dsimp only at found
    split at found
    · rename_i inside
      obtain rfl := Option.some.inj found
      have filled : drawn.offset + (row - (rowArea .vertical screen).y) < items.length := inside.2
      have there : items[drawn.offset + (row - (rowArea .vertical screen).y)]? = some _ :=
        List.getElem?_eq_getElem filled
      exact ⟨_, there, View.lines_of_ungrabbed before.theme before.label ungrabbed vertical there⟩
    · cases found
  case sortable =>
    intro index source pressed sortable
    rw [← listed] at sortable
    rw [← rows] at pressed
    have inside : source < sortableCount ready.arranger.items := Arrange.positionOf_lt sortable
    have begun := Sorting.Carries.press shown pressed sortable pressedAt
    rw [rows] at begun
    have carries := begun.run drags
    rw [Option.or_none] at carries
    constructor
    · intro nowhere
      rw [nowhere] at carries
      rw [← listed]
      exact carries.release_nowhere releasedAt
    · intro target position dragged lands
      rw [← listed] at lands
      obtain ⟨reordered, relocated⟩ := carries.release inside dragged lands releasedAt
      have item := getElem?_filter_sortable sortable
      rw [listed] at reordered relocated item
      exact ⟨relocated.entry.trans item, relocated.rest, reordered⟩
  case other =>
    intro elsewhere still
    rw [← rows, ← listed] at elsewhere
    have unpressed := Sorting.press_elsewhere shown elsewhere pressedAt
    have rests : Sorting.Rests items ready := ⟨still, listed⟩
    unfold dropped
    rw [unpressed]
    exact (rests.run drags).release releasedAt

/-- Six items, the second of them pinned, in a list that is scrolled by two rows. -/
def scrolled : Sorting Nat where
  arranger :=
    { config := {}
      items := [⟨0, true⟩, ⟨1, false⟩, ⟨2, true⟩, ⟨3, true⟩, ⟨4, true⟩, ⟨5, true⟩] }
  label := toString
  offset := 2

/-- Over the last of three rows, and back over the one in the middle; the second sample comes too
soon and is held back. -/
def overAndBack : List Event :=
  [.mouse .drag 4 3 5, .draw (.blank 20 6), .mouse .drag 4 2 6, .tick 7]

/-- The third item is pressed and dropped on the fourth. -/
theorem drag_lands_under_pointer_scrolled :
    let drawn := (scrolled.draw (.blank 20 6)).2
    let dropped := (((drawn.run [.tick 3]).handleMouse .press 4 1 4).run overAndBack).handleMouse
      .release 0 0 8
    drawn.rowAt? (rowArea .vertical (.blank 20 6)) 4 1 = some 2 ∧
      (dropped.arranger.items.filter (·.sortable))[2]? = some ⟨2, true⟩ ∧
      (dropped.arranger.items.filter (·.sortable)).eraseIdx 2 =
        [⟨0, true⟩, ⟨3, true⟩, ⟨4, true⟩, ⟨5, true⟩] ∧
      dropped.arranger.items[1]? = some ⟨1, false⟩ := by
  intro drawn dropped
  have ungrabbed (source drop : Nat) : scrolled.arranger.gesture ≠ .grabbed source drop :=
    Arrange.Gesture.noConfusion
  have undrawn : ∀ event ∈ [Event.tick 3], ∀ screen, event ≠ .draw screen := by simp
  have drags : ∀ event ∈ overAndBack, event.Drags (.blank 20 6) := by
    simp only [overAndBack, List.forall_mem_cons, List.not_mem_nil, false_implies, implies_true,
      and_true]
    exact ⟨.drag 4 3 5, .redraw _ rfl, .drag 4 2 6, .tick 7⟩
  obtain ⟨-, lands, -⟩ := drag_lands_under_pointer scrolled (.blank 20 6) [.tick 3] overAndBack
    4 1 4 0 0 8 rfl ungrabbed undrawn rfl drags
  have pressed : drawn.rowAt? (rowArea .vertical (.blank 20 6)) 4 1 = some 2 := by decide
  have dragged :
      lastOver? (drawn.rowAt? (rowArea .vertical (.blank 20 6))) overAndBack = some 3 := by
    decide
  obtain ⟨-, put⟩ := lands 2 1 pressed (by decide)
  obtain ⟨item, others, reordered⟩ := put 3 2 dragged (by decide)
  have third : scrolled.arranger.items[2]? = some ⟨2, true⟩ := rfl
  have rest : (scrolled.arranger.items.filter (·.sortable)).eraseIdx 1 =
      [⟨0, true⟩, ⟨3, true⟩, ⟨4, true⟩, ⟨5, true⟩] := rfl
  have second := reordered.pinned 1 ⟨1, false⟩ rfl rfl
  -- the runs are compared as they are written, without running them
  with_reducible exact ⟨pressed, item.trans third, others.trans rest, second⟩

end Picklist.Session
