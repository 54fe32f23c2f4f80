import Picklist.Proofs.Arrange.Preview
import Picklist.Proofs.Arrange.Reorder

/-!
# Where a throttled drag lands

A throttle holds back the sample that came last, and the commit applies what is held. So a drag ends
where its last sample points to, whatever the interval of the throttle, as long as that sample is
over a sortable item.

Samples over other items have no effect when they are applied, but they take the place of a held
sample all the same. A drag that ends with such a sample can therefore lose the sample before it,
and where it lands then depends on the interval. Without these samples it does not.
-/

set_option autoImplicit false

namespace Picklist.Arrange

variable {α : Type}

/-- What happens between the start of a drag and its commit. -/
inductive Motion where
  | sample (pointer : Point) (candidate : Nat) (bounds : Bounds) (now : Nat)
  | tick (now : Nat)

namespace Motion

/-- The operation that the motion asks for. -/
def operation : Motion → Operation
  | sample pointer candidate bounds now => .updateDropTarget pointer candidate bounds now
  | tick now => .tick now

/-- The sample as the throttle gets it. -/
def hover? (orientation : Orientation) : Motion → Option Hover
  | sample pointer candidate bounds _ =>
    some ⟨candidate, orientation.isBeforeMidpoint pointer bounds⟩
  | tick _ => none

/-- Whether the motion is a tick or a sample over a sortable item. -/
def counts (items : List (Item α)) : Motion → Bool
  | sample _ candidate _ _ => (positionOf items candidate).isSome
  | tick _ => true

end Motion

/-- The last sample of some motions. -/
def lastHover? (orientation : Orientation) (motions : List Motion) : Option Hover :=
  (motions.filterMap (Motion.hover? orientation)).getLast?

/-- The last sample of some motions is that of the others, or else that of the first. -/
theorem lastHover?_cons (orientation : Orientation) (motion : Motion) (rest : List Motion) :
    lastHover? orientation (motion :: rest) =
      (lastHover? orientation rest).or (motion.hover? orientation) := by
  unfold lastHover?
  cases hovers : motion.hover? orientation with
  | none => rw [List.filterMap_cons_none hovers, Option.or_none]
  | some sample => rw [List.filterMap_cons_some hovers, List.getLast?_cons, Option.or_some]

/-- A drag from its start to its commit: the answer of the commit and the items after it. -/
def dragAndDrop (config : Config) (items : List (Item α)) (index : Nat) (motions : List Motion)
    (now : Nat) : Option (List α) × List (Item α) :=
  let started := (Arranger.beginDrag { config, items } index).2
  let (answer, landed) := (started.run (motions.map Motion.operation)).commit now
  (answer, landed.items)

/-! ## Where samples point to -/

/-- The position at which a sample lets the item from position `source` land, if it is over a
sortable item. -/
def landingOf? (items : List (Item α)) (source : Nat) (sample : Hover) : Option Nat :=
  (positionOf items sample.candidate).map fun candidate =>
    min (dropPosition source candidate sample.before) (sortableCount items - 1)

/-- Where a drag lands whose last sample is given; without a sample the item stays. -/
def destination? (items : List (Item α)) (source : Nat) : Option Hover → Option Nat
  | none => some source
  | some sample => landingOf? items source sample

/-- What a landing answers, and the items after it. -/
def land (items : List (Item α)) (source drop : Nat) : Option (List α) × List (Item α) :=
  if source = drop then (none, items)
  else
    let moved := moveWithinSlots (slots items) source drop items
    (some (moved.map Item.value), moved)

namespace Arranger

/-- During a drag a sample is applied by moving the landing place to where it points. -/
theorem applyHover_dragging {a : Arranger α} {source drop : Nat}
    (dragging : a.gesture = .dragging source drop) (sample : Hover) :
    (a.applyHover sample).2 =
      { a with gesture := .dragging source ((landingOf? a.items source sample).getD drop) } := by
  have unchanged : a = { a with gesture := .dragging source drop } := by rw [← dragging]
  unfold applyHover landingOf? total
  rw [dragging]
  cases positionOf a.items sample.candidate with
  | none => exact unchanged
  | some candidate =>
    dsimp only [Option.map_some, Option.getD_some]
    split
    · rename_i same
      rw [same]
      exact unchanged
    · rfl

/-- A sample that is over no sortable item does nothing, whatever has become of the throttle. -/
theorem released_of_nowhere {a : Arranger α} {sample : Hover}
    (nowhere : positionOf a.items sample.candidate = none) (samples : Timing.Throttle Hover) :
    { a with samples }.applyHover sample = (false, { a with samples }) := by
  unfold applyHover
  split
  · rename_i sortable
    rw [nowhere] at sortable
    cases sortable
  · rfl

/-- Where nothing settles nothing comes to its end. -/
theorem finishSettling_eq {a : Arranger α}
    (unsettled : ∀ position deadline, a.gesture ≠ .settling position deadline) (now : Nat) :
    a.finishSettling now = (false, a) := by
  unfold finishSettling
  split
  · rename_i settling
    exact absurd settling (unsettled _ _)
  · rfl

/-- A drag from position `source` that began on the list `start`, as it stands after the sample
`last`: that sample is held back, or the item would land where it points. -/
structure Follows (start : Arranger α) (source : Nat) (last : Option Hover) (a : Arranger α) :
    Prop where
  same : SameList start a
  pending : ∀ sample, a.samples.pending = some sample → last = some sample
  gesture : ∃ drop, a.gesture = .dragging source drop ∧
    (a.samples.pending = none → ∀ target, destination? start.items source last = some target →
      drop = target)

namespace Follows

variable {start a : Arranger α} {source : Nat} {last : Option Hover}

/-- Applying a sample makes it the last one, whatever has become of the throttle. -/
theorem apply (h : Follows start source last a) {samples : Timing.Throttle Hover}
    (free : samples.pending = none) (sample : Hover) :
    Follows start source (some sample) ({ a with samples }.applyHover sample).2 := by
  have same := h.same.trans (sameList_released a samples sample)
  obtain ⟨drop, dragging, -⟩ := h.gesture
  have put : ({ a with samples } : Arranger α).gesture = .dragging source drop := dragging
  rw [applyHover_dragging put] at same ⊢
  refine ⟨same, ?_, _, rfl, ?_⟩
  · intro held pending
    rw [free] at pending
    cases pending
  · intro _ target points
    rw [destination?, ← h.same.items] at points
    rw [points, Option.getD_some]

/-- Letting out what is held lets the drag go where the last sample points to. -/
theorem flushSample (h : Follows start source last a) :
    Follows start source last a.flushSample := by
  cases held : a.samples.pending with
  | none =>
    rw [flushSample_of_none held]
    exact h
  | some sample =>
    rw [flushSample_of_some held, h.pending sample held]
    exact h.apply rfl sample

/-- A sample is applied or held back, and is the last one from then on. -/
theorem hover (h : Follows start source last a) (sample : Hover) (now : Nat) :
    Follows start source (some sample) (a.hover sample now).2 := by
  obtain ⟨drop, dragging, -⟩ := h.gesture
  unfold Arranger.hover Timing.Throttle.offer
  split
  · by_cases isOpen : a.samples.isOpen now = true
    · rw [if_pos isOpen]
      exact h.apply rfl sample
    · rw [if_neg isOpen]
      refine ⟨⟨h.same.config, h.same.items⟩, fun _ pending => pending, drop, dragging, ?_⟩
      intro free
      cases free
  · rename_i still
    exact absurd dragging (still source drop)

/-- A drag that follows its samples does not settle. -/
theorem unsettled (h : Follows start source last a) (position deadline : Nat) :
    a.gesture ≠ .settling position deadline := by
  obtain ⟨drop, dragging, -⟩ := h.gesture
  rw [dragging]
  exact Gesture.noConfusion

/-- A tick applies the held sample or leaves it. -/
theorem tick (h : Follows start source last a) (now : Nat) :
    Follows start source last (a.tick now).2 := by
  unfold Arranger.tick Timing.Throttle.poll
  cases held : a.samples.pending with
  | none =>
    dsimp only
    rw [finishSettling_eq h.unsettled]
    exact h
  | some sample =>
    dsimp only
    by_cases isOpen : a.samples.isOpen now = true
    · rw [if_pos isOpen, h.pending sample held]
      dsimp only
      let released : Timing.Throttle Hover :=
        { a.samples with pending := none, lastRelease := some now }
      have free : released.pending = none := rfl
      have applied := h.apply free sample
      rw [finishSettling_eq applied.unsettled]
      exact applied
    · rw [if_neg isOpen]
      dsimp only
      rw [finishSettling_eq h.unsettled]
      exact h

/-- A drag goes on to follow the sample of one more motion. -/
theorem motion (h : Follows start source last a) (motion : Motion) :
    Follows start source ((motion.hover? start.config.orientation).or last)
      (a.perform motion.operation) := by
  cases motion with
  | sample pointer candidate bounds now =>
    rw [← h.same.config]
    exact h.hover _ now
  | tick now => exact h.tick now

/-- A drag goes on to follow the last sample of more motions. -/
theorem run (h : Follows start source last a) (motions : List Motion) :
    Follows start source ((lastHover? start.config.orientation motions).or last)
      (a.run (motions.map Motion.operation)) := by
  induction motions generalizing a last with
  | nil => exact h
  | cons motion rest ih =>
    rw [lastHover?_cons, Option.or_assoc]
    exact ih (h.motion motion)

/-- A commit lands the item where the last sample points. -/
theorem commit (h : Follows start source last a) {target : Nat}
    (points : destination? start.items source last = some target) (now : Nat) :
    ((a.commit now).1, (a.commit now).2.items) = land start.items source target := by
  obtain ⟨drop, dragging, lands⟩ := h.flushSample.gesture
  obtain rfl : drop = target := lands a.flushSample_pending target points
  have items : a.flushSample.items = start.items := h.flushSample.same.items
  have moving : a.flushSample.gesture.move? = some (source, drop) := by
    rw [dragging]
    rfl
  have out := a.landing_commit now
  generalize a.commit now = result at out ⊢
  unfold land
  cases out with
  | still rest =>
    rw [moving] at rest
    cases rest
  | returned source' back =>
    rw [moving] at back
    obtain ⟨rfl, rfl⟩ : source = source' ∧ drop = source' := by simpa using back
    rw [if_pos rfl, items]
  | dropped source' drop' away elsewhere =>
    rw [moving] at away
    obtain ⟨rfl, rfl⟩ : source = source' ∧ drop = drop' := by simpa using away
    rw [if_neg elsewhere, items]

/-- A sample that points nowhere changes nothing when it is applied. -/
theorem hover_ignored (h : Follows start source last a) (free : a.samples.pending = none)
    {sample : Hover} (nowhere : positionOf start.items sample.candidate = none) {now : Nat}
    (isOpen : a.samples.isOpen now = true) :
    Follows start source last (a.hover sample now).2 := by
  unfold Arranger.hover Timing.Throttle.offer
  split
  · rw [if_pos isOpen]
    rw [← h.same.items] at nowhere
    dsimp only
    rw [released_of_nowhere nowhere]
    obtain ⟨drop, dragging, lands⟩ := h.gesture
    refine ⟨⟨h.same.config, h.same.items⟩, ?_, drop, dragging, fun _ => lands free⟩
    intro held pending
    cases pending
  · exact h

end Follows

/-! ## Without a throttle -/

/-- Every sample is applied at once. -/
structure Unthrottled (a : Arranger α) : Prop where
  interval : a.samples.interval = 0
  pending : a.samples.pending = none

namespace Unthrottled

variable {a : Arranger α}

/-- Without an interval the throttle is always open. -/
theorem isOpen (h : Unthrottled a) (now : Nat) : a.samples.isOpen now = true := by
  unfold Timing.Throttle.isOpen
  split
  · rfl
  · simp [h.interval]

/-- An arranger without an interval keeps none through a motion. -/
theorem motion (h : Unthrottled a) (motion : Motion) :
    Unthrottled (a.perform motion.operation) := by
  cases motion with
  | sample pointer candidate bounds now =>
    show Unthrottled (a.hover _ now).2
    unfold Arranger.hover Timing.Throttle.offer
    split
    · rw [if_pos (h.isOpen now)]
      exact ⟨by simpa using h.interval, by simp⟩
    · exact h
  | tick now =>
    show Unthrottled (a.tick now).2
    unfold Arranger.tick Timing.Throttle.poll
    rw [h.pending]
    dsimp only
    unfold finishSettling
    split
    · split <;> exact ⟨h.interval, h.pending⟩
    · exact h

/-- Without a throttle a drag goes where its last sample points that is over a sortable item. -/
theorem run (h : Unthrottled a) {start : Arranger α} {source : Nat} {last : Option Hover}
    (follows : Follows start source last a) (motions : List Motion) :
    Follows start source
      ((lastHover? start.config.orientation (motions.filter (Motion.counts start.items))).or last)
      (a.run (motions.map Motion.operation)) := by
  induction motions generalizing a last with
  | nil => exact follows
  | cons motion rest ih =>
    by_cases counts : motion.counts start.items = true
    · rw [List.filter_cons_of_pos counts, lastHover?_cons, Option.or_assoc]
      exact ih (h.motion motion) (follows.motion motion)
    · rw [List.filter_cons_of_neg counts]
      apply ih (h.motion motion)
      cases motion with
      | tick now => exact absurd rfl counts
      | sample pointer candidate bounds now =>
        apply follows.hover_ignored h.pending _ (h.isOpen now)
        simpa [Motion.counts] using counts

end Unthrottled

/-! ## Whole drags -/

/-- Nothing moves a list at rest but the start of a drag. -/
theorem run_of_idle {a : Arranger α} (idle : a.gesture = .idle) (free : a.samples.pending = none)
    (motions : List Motion) : a.run (motions.map Motion.operation) = a := by
  have stays (motion : Motion) : a.perform motion.operation = a := by
    cases motion with
    | sample pointer candidate bounds now =>
      show (a.hover _ now).2 = a
      unfold Arranger.hover
      rw [idle]
    | tick now =>
      show (a.tick now).2 = a
      have unsettled (position deadline : Nat) : a.gesture ≠ .settling position deadline := by
        rw [idle]
        exact Gesture.noConfusion
      unfold Arranger.tick Timing.Throttle.poll
      rw [free]
      dsimp only
      rw [finishSettling_eq unsettled]
  induction motions with
  | nil => rfl
  | cons motion rest ih =>
    show (a.perform motion.operation).run (rest.map Motion.operation) = a
    rw [stays motion, ih]

/-- A drag that was just begun follows no sample yet. -/
theorem follows_beginDrag {start : Arranger α} {index source : Nat}
    (sortable : positionOf start.items index = some source) :
    Follows start source none (start.beginDrag index).2 := by
  unfold beginDrag
  rw [sortable]
  refine ⟨⟨rfl, rfl⟩, ?_, source, rfl, ?_⟩
  · intro sample pending
    cases pending
  · rintro _ target ⟨⟩
    rfl

end Arranger

variable {config : Config} {items : List (Item α)} {index : Nat}

/-- A drag that cannot start changes nothing. -/
theorem dragAndDrop_of_pinned (pinned : positionOf items index = none) (motions : List Motion)
    (now : Nat) : dragAndDrop config items index motions now = (none, items) := by
  have refused : (Arranger.beginDrag { config, items } index).2 = { config, items } := by
    unfold Arranger.beginDrag
    rw [pinned]
  unfold dragAndDrop
  dsimp only
  rw [refused, Arranger.run_of_idle rfl rfl, Arranger.commit_of_still rfl rfl]

/-- A drag lands where its last sample points. -/
theorem dragAndDrop_of_last (config : Config) {source target : Nat}
    (sortable : positionOf items index = some source) {motions : List Motion}
    (points : destination? items source (lastHover? config.orientation motions) = some target)
    (now : Nat) : dragAndDrop config items index motions now = land items source target := by
  have begun : Arranger.Follows ({ config, items } : Arranger α) source none _ :=
    Arranger.follows_beginDrag sortable
  have follows := begun.run motions
  rw [Option.or_none] at follows
  exact follows.commit points now

/-- Without a throttle a drag lands where its last sample points that is over a sortable item. -/
theorem dragAndDrop_unthrottled (config : Config) {source target : Nat}
    (prompt : config.dragThrottle = 0) (sortable : positionOf items index = some source)
    {motions : List Motion}
    (points : destination? items source
      (lastHover? config.orientation (motions.filter (Motion.counts items))) = some target)
    (now : Nat) : dragAndDrop config items index motions now = land items source target := by
  have unthrottled : Arranger.Unthrottled
      (Arranger.beginDrag ({ config, items } : Arranger α) index).2 := by
    unfold Arranger.beginDrag
    rw [sortable]
    exact ⟨prompt, rfl⟩
  have begun : Arranger.Follows ({ config, items } : Arranger α) source none _ :=
    Arranger.follows_beginDrag sortable
  have follows := unthrottled.run begun motions
  rw [Option.or_none] at follows
  exact follows.commit points now

/-- A sample over a sortable item points somewhere, and a drag without a sample stays. -/
theorem exists_destination {last : Option Hover}
    (counts : ∀ sample, last = some sample → (positionOf items sample.candidate).isSome = true)
    (source : Nat) : ∃ target, destination? items source last = some target := by
  cases last with
  | none => exact ⟨source, rfl⟩
  | some sample =>
    obtain ⟨candidate, found⟩ := Option.isSome_iff_exists.mp (counts sample rfl)
    exact ⟨_, by rw [destination?, landingOf?, found, Option.map_some]⟩

/-- What comes last among motions that count is over a sortable item. -/
theorem lastHover?_counting (orientation : Orientation) (motions : List Motion) (sample : Hover)
    (last : lastHover? orientation (motions.filter (Motion.counts items)) = some sample) :
    (positionOf items sample.candidate).isSome = true := by
  obtain ⟨motion, among, hovers⟩ := List.mem_filterMap.mp (List.mem_of_getLast? last)
  obtain ⟨-, counts⟩ := List.mem_filter.mp among
  cases motion with
  | tick now => cases hovers
  | sample pointer candidate bounds now =>
    obtain rfl : _ = sample := Option.some.inj hovers
    exact counts

/-- **Only samples that count may come last.** A drag whose last sample is over a sortable item, or
that has no sample, ends with the same answer and the same items for every interval of the throttle
as without a throttle. Without the samples that are over no sortable item every drag ends so. -/
theorem throttled_drag_lands_alike (config : Config) (interval : Nat) (items : List (Item α))
    (index : Nat) (motions : List Motion) (now : Nat) :
    let throttled := { config with dragThrottle := interval }
    let unthrottled := { config with dragThrottle := 0 }
    ((∀ sample, lastHover? config.orientation motions = some sample →
        (positionOf items sample.candidate).isSome = true) →
      dragAndDrop throttled items index motions now =
        dragAndDrop unthrottled items index motions now) ∧
      dragAndDrop throttled items index (motions.filter (Motion.counts items)) now =
        dragAndDrop unthrottled items index motions now := by
  intro throttled unthrottled
  cases sortable : positionOf items index with
  | none => simp only [dragAndDrop_of_pinned sortable, implies_true, and_self]
  | some source =>
    constructor
    · intro counts
      obtain ⟨target, points⟩ := exists_destination counts source
      calc dragAndDrop throttled items index motions now
        _ = land items source target := dragAndDrop_of_last throttled sortable points now
        _ = dragAndDrop unthrottled items index motions now :=
          (dragAndDrop_of_last unthrottled sortable points now).symm
    · obtain ⟨target, points⟩ := exists_destination
        (lastHover?_counting config.orientation motions) source
      calc dragAndDrop throttled items index (motions.filter (Motion.counts items)) now
        _ = land items source target := dragAndDrop_of_last throttled sortable points now
        _ = dragAndDrop unthrottled items index motions now :=
          (dragAndDrop_unthrottled unthrottled rfl sortable points now).symm

/-- A sample in the lower half of the row with the given list index; rows are one unit high. -/
def lowerHalf (row now : Nat) : Motion :=
  .sample ⟨0, row.toFloat + 0.75⟩ row ⟨0, row.toFloat, 10, 1⟩ now

/-- Behind the third item, over the pinned one, behind the fourth one. -/
def acrossPinned : List Motion :=
  [lowerHalf 2 0, lowerHalf 1 4, lowerHalf 3 8]

/-- The sample over the last item takes the place of the one over the pinned item, and is held back
up to the commit. -/
theorem throttled_drag_lands_alike_held :
    (∀ sample, lastHover? .vertical acrossPinned = some sample →
        (positionOf pinnedSecond sample.candidate).isSome = true) ∧
      dragAndDrop { dragThrottle := 16 } pinnedSecond 0 acrossPinned 9 =
        (some [3, 2, 4, 1], [⟨3, true⟩, ⟨2, false⟩, ⟨4, true⟩, ⟨1, true⟩]) := by
  have counts (sample : Hover) (last : lastHover? .vertical acrossPinned = some sample) :
      (positionOf pinnedSecond sample.candidate).isSome = true := by
    obtain rfl : _ = sample := Option.some.inj last
    decide
  refine ⟨counts, ?_⟩
  rw [(throttled_drag_lands_alike {} 16 pinnedSecond 0 acrossPinned 9).1 counts]
  decide +kernel

/-- Behind the third item, behind the fourth one, over the pinned one. -/
def backOverPinned : List Motion :=
  [lowerHalf 2 0, lowerHalf 3 4, lowerHalf 1 8]

/-- A sample that is to be ignored takes the place of a held one, and the interval of the throttle
decides where the drag lands. -/
theorem ignored_sample_moves_the_landing :
    dragAndDrop { dragThrottle := 16 } pinnedSecond 0 backOverPinned 9 =
        (some [3, 2, 1, 4], [⟨3, true⟩, ⟨2, false⟩, ⟨1, true⟩, ⟨4, true⟩]) ∧
      dragAndDrop { dragThrottle := 0 } pinnedSecond 0 backOverPinned 9 =
        (some [3, 2, 4, 1], [⟨3, true⟩, ⟨2, false⟩, ⟨4, true⟩, ⟨1, true⟩]) := by
  decide +kernel

end Picklist.Arrange
