import Picklist.Arrange.Config
import Picklist.Arrange.Gesture
import Picklist.Arrange.Item
import Picklist.Arrange.Move
import Picklist.Direction
import Picklist.Timing.Throttle

/-!
# Arrangers

The state behind a list that is reordered by dragging or by keys. Both ways end in a commit, which
permutes the sortable items. Pointer samples that come too fast are held back and applied by a later
tick or by the commit.
-/

set_option autoImplicit false

namespace Picklist.Arrange

/-- A list under rearrangement. -/
structure Arranger (α : Type) where
  config : Config
  items : List (Item α)
  gesture : Gesture := .idle
  samples : Timing.Throttle Hover := { interval := config.dragThrottle }
  /-- The position that the next keyboard selection starts from. -/
  lastFocus : Option Nat := none
  announcement : Option Announcement := none
  deriving Repr, DecidableEq

namespace Arranger

variable {α : Type}

/-- An arranger of sortable values. -/
def ofValues (config : Config) (values : List α) : Arranger α :=
  { config, items := values.map fun value => { value } }

/-- The values in committed order. -/
def values (a : Arranger α) : List α :=
  a.items.map Item.value

/-- The number of sortable items. -/
def total (a : Arranger α) : Nat :=
  sortableCount a.items

/-- The position of the item that is being moved. -/
def movedFrom (a : Arranger α) : Option Nat :=
  a.gesture.move?.map Prod.fst

/-- The position at which the moving item lands if it is dropped now. -/
def movedTo (a : Arranger α) : Option Nat :=
  a.gesture.move?.map Prod.snd

/-- Starts dragging the item with the given list index; pinned items cannot be dragged. -/
def beginDrag (a : Arranger α) (index : Nat) : Bool × Arranger α :=
  match positionOf a.items index with
  | some position =>
    (true, { a with samples := a.samples.reset, gesture := .dragging position position })
  | none => (false, a)

/-- Takes over the drop target of a pointer sample. Says whether the drop target changed. -/
def applyHover (a : Arranger α) (sample : Hover) : Bool × Arranger α :=
  match a.gesture, positionOf a.items sample.candidate with
  | .dragging source drop, some candidate =>
    let next := min (dropPosition source candidate sample.before) (a.total - 1)
    if next = drop then (false, a) else (true, { a with gesture := .dragging source next })
  | _, _ => (false, a)

/-- Feeds a pointer sample to the drag in progress. Says whether the drop target changed. -/
def hover (a : Arranger α) (sample : Hover) (now : Nat) : Bool × Arranger α :=
  match a.gesture with
  | .dragging _ _ =>
    match a.samples.offer sample now with
    | (some sample, samples) => { a with samples }.applyHover sample
    | (none, samples) => (false, { a with samples })
  | _ => (false, a)

/-- Feeds the pointer position over the item with list index `candidate`, shown in `bounds`. Says
whether the drop target changed. -/
def updateDropTarget (a : Arranger α) (pointer : Point) (candidate : Nat) (bounds : Bounds)
    (now : Nat) : Bool × Arranger α :=
  a.hover ⟨candidate, a.config.orientation.isBeforeMidpoint pointer bounds⟩ now

/-- Ends settling when its time is over. Says whether it did. -/
def finishSettling (a : Arranger α) (now : Nat) : Bool × Arranger α :=
  match a.gesture with
  | .settling _ deadline =>
    if deadline ≤ now then (true, { a with gesture := .idle }) else (false, a)
  | _ => (false, a)

/-- Lets time pass: applies a held sample whose time has come, and ends settling. Says whether
anything visible changed. -/
def tick (a : Arranger α) (now : Nat) : Bool × Arranger α :=
  let (moved, a) : Bool × Arranger α :=
    match a.samples.poll now with
    | (some sample, samples) => { a with samples }.applyHover sample
    | (none, samples) => (false, { a with samples })
  let (settled, a) := a.finishSettling now
  (moved || settled, a)

/-- Applies the held sample, if there is one. -/
def flushSample (a : Arranger α) : Arranger α :=
  match a.samples.flush with
  | (some sample, samples) => ({ a with samples }.applyHover sample).2
  | (none, samples) => { a with samples }

/-- Drops the moving item. Answers with the values in their new order if the order changed. -/
def commit (a : Arranger α) (now : Nat) : Option (List α) × Arranger α :=
  let a := a.flushSample
  match a.gesture.move? with
  | none => (none, a)
  | some (source, drop) =>
    let landed : Arranger α :=
      { a with gesture := .settling drop (now + a.config.settleDelay), lastFocus := some drop }
    if source = drop then (none, { landed with announcement := some (.returned source a.total) })
    else
      let moved : Arranger α :=
        { landed with
          items := moveWithinSlots (slots a.items) source drop a.items
          announcement := some (.dropped drop a.total) }
      (some moved.values, moved)

/-- Gives up the move or the focus; the order stays. -/
def cancel (a : Arranger α) : Arranger α :=
  let a : Arranger α :=
    match a.gesture.move?, a.gesture.focus? with
    | some (source, _), _ =>
      { a with lastFocus := some source, announcement := some .cancelled }
    | none, some focus => { a with lastFocus := some focus }
    | none, none => a
  { a with samples := a.samples.reset, gesture := .idle }

/-- The direction of an arrow key along the axis of the list. -/
def direction? : Orientation → Key → Option Direction
  | .vertical, .up => some .backward
  | .vertical, .down => some .forward
  | .horizontal, .left => some .backward
  | .horizontal, .right => some .forward
  | _, _ => none

/-- One step of the focus or of the landing place. From rest the focus appears where it was last, or
at the end that the step comes from. -/
def arrow (a : Arranger α) (direction : Direction) : Arranger α :=
  let enter : Arranger α :=
    let focus := match a.lastFocus with
      | some focus => focus % a.total
      | none => direction.entry a.total
    { a with lastFocus := some focus, gesture := .selecting focus }
  match a.gesture with
  | .idle => enter
  | .settling _ _ => enter
  | .selecting focus =>
    match direction.stepWrapping focus a.total with
    | some focus => { a with lastFocus := some focus, gesture := .selecting focus }
    | none => a
  | .grabbed source drop =>
    match direction.stepWrapping drop a.total with
    | some drop =>
      { a with gesture := .grabbed source drop, announcement := some (.moved drop a.total) }
    | none => a
  | .dragging _ _ => a

/-- Grabs the focused item, or drops the grabbed one. -/
def space (a : Arranger α) (now : Nat) : Option (List α) × Arranger α :=
  match a.gesture with
  | .selecting focus =>
    (none, { a with
      gesture := .grabbed focus focus, announcement := some (.grabbed focus a.total) })
  | .grabbed _ _ => a.commit now
  | _ => (none, a)

/-- Applies a key; without sortable items no key does anything. Answers with the values in their new
order if the key changed it. -/
def handleKey (a : Arranger α) (key : Key) (now : Nat) : Option (List α) × Arranger α :=
  if a.total = 0 then (none, a)
  else
    match key with
    | .escape => (none, a.cancel)
    | .space => a.space now
    | key =>
      match direction? a.config.orientation key with
      | some direction => (none, a.arrow direction)
      | none => (none, a)

end Arranger

end Picklist.Arrange
