import Mathlib.Data.List.Induction
import Picklist.Proofs.Arrange.Throttling

/-!
# No sample outlives its drag

The throttle is a part of an arranged list with a life of its own: it is filled by pointer samples,
emptied by ticks and commits, and forgets everything when a drag begins or a gesture is given up.
Two facts tie it to the gesture. At rest, that is when nothing is dragged, nothing is held back. And
during a drag the sample that is held back, if there is one, is the last that was offered since the
drag began. Both are kept by every operation.

So a later gesture cannot meet with a sample of an earlier one. Seen from the other side, what the
throttle holds when nothing is dragged does not matter: two lists that differ in nothing else stay
alike whatever happens to them.
-/

set_option autoImplicit false

namespace Picklist.Arrange

variable {α : Type}

/-- The sample that an operation brings along. -/
def Operation.hover? (orientation : Orientation) : Operation → Option Hover
  | updateDropTarget pointer candidate bounds _ =>
    some ⟨candidate, orientation.isBeforeMidpoint pointer bounds⟩
  | _ => none

/-- The sample that was offered last. -/
def lastOffered? (orientation : Orientation) (operations : List Operation) : Option Hover :=
  (operations.filterMap (Operation.hover? orientation)).getLast?

/-- The sample that was offered last is that of the last operation, if it offers one. -/
theorem lastOffered?_concat (orientation : Orientation) (operations : List Operation)
    (operation : Operation) :
    lastOffered? orientation (operations ++ [operation]) =
      (operation.hover? orientation).or (lastOffered? orientation operations) := by
  unfold lastOffered?
  rw [List.filterMap_append, List.getLast?_append]
  cases hovers : operation.hover? orientation with
  | none => rw [List.filterMap_cons_none hovers]; rfl
  | some sample => rw [List.filterMap_cons_some hovers]; rfl

namespace Arranger

/-! ## One operation -/

/-- Nothing is dragged, and no sample is held back. -/
structure Rests (a : Arranger α) : Prop where
  gesture : ∀ source drop, a.gesture ≠ .dragging source drop
  free : a.samples.pending = none

/-- The drag from position `source` goes on in `b` after an operation on `a`: a sample that is held
back is the one that the operation brought, or was held back before. -/
structure GoesOn (a : Arranger α) (source : Nat) (operation : Operation) (b : Arranger α) :
    Prop where
  refused : ∀ index, operation = .beginDrag index → (a.beginDrag index).1 = false
  dragging : ∃ drop, b.gesture = .dragging source drop
  held : ∀ sample, b.samples.pending = some sample →
    (operation.hover? a.config.orientation).or a.samples.pending = some sample

section

variable {a : Arranger α} {source drop : Nat}

/-- A hover leaves a drag a drag of the same item. -/
theorem applyHover_gesture (dragging : a.gesture = .dragging source drop) (sample : Hover) :
    ∃ next, (a.applyHover sample).2.gesture = .dragging source next :=
  ⟨_, congrArg gesture (applyHover_dragging dragging sample)⟩

/-- Nothing settles while an item is dragged. -/
theorem finishSettling_dragging (dragging : a.gesture = .dragging source drop) (now : Nat) :
    a.finishSettling now = (false, a) := by
  apply finishSettling_eq
  intro position deadline
  rw [dragging]
  exact Gesture.noConfusion

/-- A drag goes on if nothing happens to it. -/
theorem goesOn_self (dragging : a.gesture = .dragging source drop) {operation : Operation}
    (refused : ∀ index, operation = .beginDrag index → (a.beginDrag index).1 = false)
    (silent : operation.hover? a.config.orientation = none) : GoesOn a source operation a where
  refused := refused
  dragging := ⟨drop, dragging⟩
  held := by
    intro sample held
    rw [silent, Option.none_or, held]

/-- A drag goes on while the pointer moves. -/
theorem goesOn_hover (dragging : a.gesture = .dragging source drop) (pointer : Point)
    (candidate : Nat) (bounds : Bounds) (now : Nat) :
    GoesOn a source (.updateDropTarget pointer candidate bounds now)
      (a.updateDropTarget pointer candidate bounds now).2 where
  refused := fun _ => Operation.noConfusion
  dragging := by
    unfold updateDropTarget hover
    split
    · split
      · rename_i samples _
        have put : ({ a with samples } : Arranger α).gesture = .dragging source drop := dragging
        exact applyHover_gesture put _
      · exact ⟨drop, dragging⟩
    · exact ⟨drop, dragging⟩
  held := by
    intro sample
    unfold updateDropTarget hover Timing.Throttle.offer
    split
    · by_cases isOpen : a.samples.isOpen now = true
      · simp [isOpen]
      · simp [isOpen, Operation.hover?]
    · rename_i still
      exact absurd dragging (still source drop)

/-- A drag goes on while time passes. -/
theorem goesOn_tick (dragging : a.gesture = .dragging source drop) (now : Nat) :
    GoesOn a source (.tick now) (a.tick now).2 := by
  have refused (index : Nat) :
      Operation.tick now = .beginDrag index → (a.beginDrag index).1 = false :=
    Operation.noConfusion
  unfold tick Timing.Throttle.poll
  cases held : a.samples.pending with
  | none =>
    dsimp only
    rw [finishSettling_dragging dragging]
    exact goesOn_self dragging refused rfl
  | some sample =>
    dsimp only
    by_cases isOpen : a.samples.isOpen now = true
    · rw [if_pos isOpen]
      dsimp only
      let released : Timing.Throttle Hover :=
        { a.samples with pending := none, lastRelease := some now }
      have put : ({ a with samples := released } : Arranger α).gesture = .dragging source drop :=
        dragging
      obtain ⟨next, gesture⟩ := applyHover_gesture put sample
      rw [finishSettling_dragging gesture]
      refine ⟨refused, ⟨next, gesture⟩, ?_⟩
      intro other pending
      rw [applyHover_samples] at pending
      cases pending
    · rw [if_neg isOpen]
      dsimp only
      rw [finishSettling_dragging dragging]
      exact goesOn_self dragging refused rfl

end

/-- No drag lasts beyond a commit. -/
theorem rests_commit (a : Arranger α) (now : Nat) : Rests (a.commit now).2 := by
  obtain ⟨free, still⟩ := a.commit_rests now
  refine ⟨?_, free⟩
  intro source drop dragging
  rw [dragging] at still
  cases still

/-- No drag lasts beyond giving up. -/
theorem rests_cancel (a : Arranger α) : Rests a.cancel := by
  unfold cancel
  exact ⟨fun _ _ => Gesture.noConfusion, rfl⟩

/-- A key gives up a drag or leaves it alone. -/
theorem handleKey_dragging {a : Arranger α} {source drop : Nat}
    (dragging : a.gesture = .dragging source drop) (key : Key) (now : Nat) :
    Rests (a.handleKey key now).2 ∨ (a.handleKey key now).2 = a := by
  unfold handleKey
  split
  · exact .inr rfl
  · split
    · exact .inl (rests_cancel a)
    · right
      unfold space
      rw [dragging]
    · split
      · right
        unfold arrow
        rw [dragging]
      · exact .inr rfl

/-- While an item is dragged, an operation ends the drag, begins another one or lets it go on. -/
theorem perform_dragging {a : Arranger α} {source drop : Nat}
    (dragging : a.gesture = .dragging source drop) (operation : Operation) :
    Rests (a.perform operation) ∨
      (∃ index position, operation = .beginDrag index ∧
        positionOf a.items index = some position) ∨
      GoesOn a source operation (a.perform operation) := by
  cases operation with
  | beginDrag index =>
    cases found : positionOf a.items index with
    | some position => exact .inr (.inl ⟨index, position, rfl, found⟩)
    | none =>
      have unchanged : a.perform (.beginDrag index) = a :=
        congrArg Prod.snd (beginDrag_of_pinned found)
      rw [unchanged]
      refine .inr (.inr (goesOn_self dragging ?_ rfl))
      rintro _ ⟨⟩
      rw [beginDrag_of_pinned found]
  | updateDropTarget pointer candidate bounds now =>
    exact .inr (.inr (goesOn_hover dragging pointer candidate bounds now))
  | tick now => exact .inr (.inr (goesOn_tick dragging now))
  | commit now => exact .inl (rests_commit a now)
  | cancel => exact .inl (rests_cancel a)
  | press key now =>
    obtain rests | unchanged := handleKey_dragging dragging key now
    · exact .inl rests
    · have same : a.perform (.press key now) = a := unchanged
      rw [same]
      exact .inr (.inr (goesOn_self dragging (fun _ => Operation.noConfusion) rfl))

/-- The end of settling begins no drag. -/
theorem Rests.finishSettling {a : Arranger α} (h : Rests a) (now : Nat) :
    Rests (a.finishSettling now).2 := by
  unfold Arranger.finishSettling
  split
  · split
    · exact ⟨fun _ _ => Gesture.noConfusion, h.free⟩
    · exact h
  · exact h

/-- Arrows begin no drag. -/
theorem Rests.arrow {a : Arranger α} (h : Rests a) (direction : Direction) :
    Rests (a.arrow direction) := by
  unfold Arranger.arrow
  dsimp only
  split
  · exact ⟨fun _ _ => Gesture.noConfusion, h.free⟩
  · exact ⟨fun _ _ => Gesture.noConfusion, h.free⟩
  · split
    · exact ⟨fun _ _ => Gesture.noConfusion, h.free⟩
    · exact h
  · split
    · exact ⟨fun _ _ => Gesture.noConfusion, h.free⟩
    · exact h
  · exact h

/-- Keys begin no drag. -/
theorem Rests.handleKey {a : Arranger α} (h : Rests a) (key : Key) (now : Nat) :
    Rests (a.handleKey key now).2 := by
  unfold Arranger.handleKey
  split
  · exact h
  · split
    · exact rests_cancel a
    · unfold space
      split
      · exact ⟨fun _ _ => Gesture.noConfusion, h.free⟩
      · exact rests_commit a now
      · exact h
    · split
      · exact h.arrow _
      · exact h

/-- Rest ends only when a drag begins. -/
theorem Rests.perform {a : Arranger α} (h : Rests a) (operation : Operation) :
    Rests (a.perform operation) ∨
      ∃ index position, operation = .beginDrag index ∧
        positionOf a.items index = some position := by
  cases operation with
  | beginDrag index =>
    cases found : positionOf a.items index with
    | some position => exact .inr ⟨index, position, rfl, found⟩
    | none =>
      left
      show Rests (a.beginDrag index).2
      rw [beginDrag_of_pinned found]
      exact h
  | updateDropTarget pointer candidate bounds now =>
    left
    show Rests (a.hover _ now).2
    unfold Arranger.hover
    split
    · rename_i dragging
      exact absurd dragging (h.gesture _ _)
    · exact h
  | tick now =>
    left
    show Rests (a.tick now).2
    unfold Arranger.tick Timing.Throttle.poll
    rw [h.free]
    exact h.finishSettling now
  | commit now => exact .inl (rests_commit a now)
  | cancel => exact .inl (rests_cancel a)
  | press key now => exact .inl (h.handleKey key now)

/-! ## The current drag -/

/-- The drag that the item at position `source`, with the list index `index`, began after the
operations `before` has lasted through the operations `during`, and no other drag has begun. -/
structure DragLasts (start : Arranger α) (before : List Operation) (index source : Nat)
    (during : List Operation) : Prop where
  begins : positionOf (start.run before).items index = some source
  lasts : ∀ earlier, earlier <+: during →
    ∃ drop, (start.run (before ++ .beginDrag index :: earlier)).gesture = .dragging source drop
  refused : ∀ earlier other, earlier ++ [.beginDrag other] <+: during →
    ((start.run (before ++ .beginDrag index :: earlier)).beginDrag other).1 = false

/-- A drag that was just begun over a sortable item lasts. -/
theorem dragLasts_nil {start : Arranger α} {before : List Operation} {index source : Nat}
    (begins : positionOf (start.run before).items index = some source) :
    DragLasts start before index source [] where
  begins := begins
  lasts := by
    intro earlier none
    obtain rfl := List.prefix_nil.mp none
    rw [run_concat]
    exact ⟨source, by rw [perform, beginDrag_of_sortable begins]⟩
  refused := by
    intro earlier other none
    have empty := List.prefix_nil.mp none
    simp at empty

/-- A drag lasts through one more operation if it goes on with it. -/
theorem DragLasts.concat {start : Arranger α} {before during : List Operation}
    {index source : Nat} (h : DragLasts start before index source during) {operation : Operation}
    (goesOn : GoesOn (start.run (before ++ .beginDrag index :: during)) source operation
      (start.run (before ++ .beginDrag index :: (during ++ [operation])))) :
    DragLasts start before index source (during ++ [operation]) where
  begins := h.begins
  lasts := by
    intro earlier within
    obtain rfl | within := List.prefix_concat_iff.mp within
    · exact goesOn.dragging
    · exact h.lasts earlier within
  refused := by
    intro earlier other within
    obtain whole | within := List.prefix_concat_iff.mp within
    · obtain ⟨rfl, last⟩ := List.append_inj' whole rfl
      exact goesOn.refused other (List.cons.inj last).1.symm
    · exact h.refused earlier other within

/-- Where a run has come to: to rest, or into a drag in which the sample that is held back, if there
is one, is the last that was offered since the drag began. -/
inductive Stands (start : Arranger α) (operations : List Operation) : Prop where
  | atRest (rests : Rests (start.run operations))
  | inDrag (before during : List Operation) (index source : Nat)
    (split : operations = before ++ .beginDrag index :: during)
    (drag : DragLasts start before index source during)
    (held : ∀ sample, (start.run operations).samples.pending = some sample →
      lastOffered? start.config.orientation during = some sample)

/-- Right after a drag was begun what is held belongs to it, for nothing is held. -/
theorem stands_begun {start : Arranger α} {operations : List Operation} {index source : Nat}
    (sortable : positionOf (start.run operations).items index = some source) :
    Stands start (operations ++ [.beginDrag index]) := by
  refine .inDrag operations [] index source rfl (dragLasts_nil sortable) ?_
  intro sample held
  rw [run_concat, perform, beginDrag_of_sortable sortable] at held
  cases held

/-- One more operation keeps what is held within the drag that lasts. -/
theorem Stands.concat {start : Arranger α} {operations : List Operation}
    (h : Stands start operations) (operation : Operation) :
    Stands start (operations ++ [operation]) := by
  cases h with
  | atRest rests =>
    obtain rests | ⟨index, source, rfl, sortable⟩ := rests.perform operation
    · rw [← run_concat] at rests
      exact .atRest rests
    · exact stands_begun sortable
  | inDrag before during index source split drag held =>
    obtain ⟨drop, dragging⟩ := drag.lasts during (List.prefix_refl during)
    rw [← split] at dragging
    obtain rests | ⟨other, position, rfl, sortable⟩ | goesOn := perform_dragging dragging operation
    · rw [← run_concat] at rests
      exact .atRest rests
    · exact stands_begun sortable
    · rw [← run_concat] at goesOn
      have longer : operations ++ [operation] =
          before ++ .beginDrag index :: (during ++ [operation]) := by
        rw [split, List.append_assoc, List.cons_append]
      refine .inDrag before (during ++ [operation]) index source longer (drag.concat ?_) ?_
      · rw [← split, ← longer]
        exact goesOn
      · intro sample pending
        have offered := goesOn.held sample pending
        rw [run_config] at offered
        rw [lastOffered?_concat]
        cases hovers : operation.hover? start.config.orientation with
        | some brought => rwa [hovers] at offered
        | none =>
          rw [hovers, Option.none_or] at offered
          exact held sample offered

/-- In every run what is held belongs to the drag that lasts. -/
theorem stands (config : Config) (items : List (Item α)) (operations : List Operation) :
    Stands { config, items } operations := by
  -- the drag that lasts is the last part of the run, so the run grows at its end
  induction operations using List.reverseRecOn with
  | nil => exact .atRest ⟨fun _ _ => Gesture.noConfusion, rfl⟩
  | append_singleton operations operation ih => exact ih.concat operation

/-! ## What the throttle holds at rest -/

/-- The same list, or a list at rest with something else in its throttle. -/
inductive Unnoticed (a : Arranger α) : Arranger α → Prop where
  | same : Unnoticed a a
  | atRest (rests : Rests a) (samples : Timing.Throttle Hover)
    (interval : samples.interval = a.samples.interval) : Unnoticed a { a with samples }

/-- A drag begins without regard to what the throttle holds. -/
theorem beginDrag_unnoticed {a : Arranger α} {samples : Timing.Throttle Hover}
    (interval : samples.interval = a.samples.interval) {index position : Nat}
    (sortable : positionOf a.items index = some position) :
    ({ a with samples } : Arranger α).beginDrag index = a.beginDrag index := by
  have put : positionOf ({ a with samples } : Arranger α).items index = some position := sortable
  rw [beginDrag_of_sortable put, beginDrag_of_sortable sortable]
  unfold Timing.Throttle.reset
  rw [interval]

/-- Giving up forgets the held sample, whichever it is. -/
theorem cancel_unnoticed {a : Arranger α} {samples : Timing.Throttle Hover}
    (interval : samples.interval = a.samples.interval) :
    ({ a with samples } : Arranger α).cancel = a.cancel := by
  unfold cancel Timing.Throttle.reset
  dsimp only
  split <;> simp [interval]

/-- The throttle keeps its interval when it is asked what is due. -/
theorem poll_interval (samples : Timing.Throttle Hover) (now : Nat) :
    (samples.poll now).2.interval = samples.interval := by
  unfold Timing.Throttle.poll
  split
  · split <;> rfl
  · rfl

section

variable {a : Arranger α} (still : ∀ source drop, a.gesture ≠ .dragging source drop)
  (samples : Timing.Throttle Hover) (now : Nat)

include still

/-- A sample that is let out while nothing is dragged has no effect. -/
theorem released_atRest (sample : Hover) :
    ({ a with samples } : Arranger α).applyHover sample = (false, { a with samples }) := by
  have put : ∀ source drop, ({ a with samples } : Arranger α).gesture ≠ .dragging source drop :=
    still
  exact applyHover_resting put sample

/-- Without a drag, time passes as it does without the held sample. -/
theorem tick_atRest :
    (({ a with samples } : Arranger α).tick now).2 =
      { (a.finishSettling now).2 with samples := (samples.poll now).2 } := by
  unfold tick
  obtain ⟨_ | sample, polled⟩ := samples.poll now
  · dsimp only
    unfold finishSettling
    dsimp only
    split
    · split <;> rfl
    · rfl
  · dsimp only
    rw [released_atRest still]
    unfold finishSettling
    dsimp only
    split
    · split <;> rfl
    · rfl

/-- Without a drag, what is held is let out without effect. -/
theorem flushSample_atRest :
    ({ a with samples } : Arranger α).flushSample =
      { a with samples := { samples with pending := none } } := by
  unfold flushSample Timing.Throttle.flush
  cases samples.pending with
  | none => rfl
  | some sample =>
    dsimp only
    rw [released_atRest still]

/-- Without a drag, a commit does what it does without the held sample. -/
theorem commit_atRest :
    (({ a with samples } : Arranger α).commit now).2 =
      { (a.commit now).2 with samples := { samples with pending := none } } := by
  have own : a.flushSample = { a with samples := { a.samples with pending := none } } :=
    flushSample_atRest still a.samples
  unfold commit
  rw [flushSample_atRest still, own]
  dsimp only
  split
  · rfl
  · split <;> rfl

end

/-- Arrows do the same with any samples held. -/
theorem arrow_atRest (a : Arranger α) (samples : Timing.Throttle Hover) (direction : Direction) :
    ({ a with samples } : Arranger α).arrow direction =
      { a.arrow direction with samples } := by
  unfold arrow total
  dsimp only
  split
  · rfl
  · rfl
  · split <;> rfl
  · split <;> rfl
  · rfl

/-- Arrows leave the held sample alone. -/
theorem arrow_samples (a : Arranger α) (direction : Direction) :
    (a.arrow direction).samples = a.samples := by
  have own : a.arrow direction = { a.arrow direction with samples := a.samples } :=
    arrow_atRest a a.samples direction
  rw [own]

namespace Rests

variable {a : Arranger α} {samples : Timing.Throttle Hover}

/-- A tick without a drag does not notice the held sample. -/
theorem unnoticed_tick (h : Rests a) (interval : samples.interval = a.samples.interval)
    (now : Nat) : Unnoticed (a.tick now).2 (({ a with samples } : Arranger α).tick now).2 := by
  have own : (a.tick now).2 =
      { (a.finishSettling now).2 with samples := (a.samples.poll now).2 } :=
    tick_atRest h.gesture a.samples now
  have rests : Rests (a.tick now).2 := by
    obtain rests | ⟨_, _, other, _⟩ := h.perform (.tick now)
    · exact rests
    · cases other
  rw [tick_atRest h.gesture samples now]
  rw [own] at rests ⊢
  refine .atRest rests _ ?_
  rw [poll_interval, poll_interval, interval]

/-- A commit without a drag does not notice the held sample. -/
theorem unnoticed_commit (h : Rests a) (interval : samples.interval = a.samples.interval)
    (now : Nat) : Unnoticed (a.commit now).2 (({ a with samples } : Arranger α).commit now).2 := by
  have own : (a.commit now).2 =
      { (a.commit now).2 with samples := { a.samples with pending := none } } :=
    commit_atRest h.gesture a.samples now
  rw [commit_atRest h.gesture samples now]
  refine .atRest (rests_commit a now) _ ?_
  rw [own]
  exact interval

/-- A key without a drag does not notice the held sample. -/
theorem unnoticed_handleKey (h : Rests a) (interval : samples.interval = a.samples.interval)
    (key : Key) (now : Nat) :
    Unnoticed (a.handleKey key now).2 (({ a with samples } : Arranger α).handleKey key now).2 := by
  unfold Arranger.handleKey space total
  dsimp only
  split
  · exact .atRest h samples interval
  · split
    · rw [cancel_unnoticed interval]
      exact .same
    · split
      · rename_i focus _
        have grabbed : Rests { a with
            gesture := .grabbed focus focus
            announcement := some (.grabbed focus (sortableCount a.items)) } :=
          ⟨fun _ _ => Gesture.noConfusion, h.free⟩
        exact .atRest grabbed samples interval
      · exact h.unnoticed_commit interval now
      · exact .atRest h samples interval
    · split
      · rw [arrow_atRest a samples]
        refine .atRest (h.arrow _) samples ?_
        rw [arrow_samples, interval]
      · exact .atRest h samples interval

/-- What the throttle holds at rest goes unnoticed by every operation. -/
theorem unnoticed_perform (h : Rests a) (interval : samples.interval = a.samples.interval)
    (operation : Operation) :
    Unnoticed (a.perform operation) (({ a with samples } : Arranger α).perform operation) := by
  cases operation with
  | beginDrag index =>
    show Unnoticed (a.beginDrag index).2 (({ a with samples } : Arranger α).beginDrag index).2
    cases found : positionOf a.items index with
    | some position =>
      rw [beginDrag_unnoticed interval found]
      exact .same
    | none =>
      have put : positionOf ({ a with samples } : Arranger α).items index = none := found
      rw [beginDrag_of_pinned put, beginDrag_of_pinned found]
      exact .atRest h samples interval
  | updateDropTarget pointer candidate bounds now =>
    show Unnoticed (a.hover _ now).2 (({ a with samples } : Arranger α).hover _ now).2
    unfold hover
    dsimp only
    split
    · rename_i dragging
      exact absurd dragging (h.gesture _ _)
    · exact .atRest h samples interval
  | tick now => exact h.unnoticed_tick interval now
  | commit now => exact h.unnoticed_commit interval now
  | cancel =>
    show Unnoticed a.cancel ({ a with samples } : Arranger α).cancel
    rw [cancel_unnoticed interval]
    exact .same
  | press key now => exact h.unnoticed_handleKey interval key now

end Rests

/-- What is not noticed at first is not noticed in the run that follows. -/
theorem Unnoticed.run {a b : Arranger α} (h : Unnoticed a b) (operations : List Operation) :
    Unnoticed (a.run operations) (b.run operations) := by
  induction operations generalizing a b with
  | nil => exact h
  | cons operation rest ih =>
    apply ih
    cases h with
    | same => exact .same
    | atRest rests samples interval => exact rests.unnoticed_perform interval operation

end Arranger

/-- **No sample outlives its drag.** After any run a sample is held back only while an item is
dragged, and it is the last that was offered since the drag began: `operations` is then made up of
the operations before the drag, its start, and the operations during which it lasted.

What the throttle holds otherwise is of no account. With other contents of the throttle a drag
begins in the same way, and a list in which nothing is dragged goes through the same states but for
the throttle. -/
theorem held_sample_is_of_this_drag (config : Config) (items : List (Item α))
    (operations : List Operation) :
    let start : Arranger α := { config, items }
    let a := start.run operations
    (∀ sample, a.samples.pending = some sample →
      ∃ before index source drop during,
        operations = before ++ .beginDrag index :: during ∧
          Arranger.DragLasts start before index source during ∧
          a.gesture = .dragging source drop ∧
          lastOffered? config.orientation during = some sample) ∧
      ∀ samples : Timing.Throttle Hover, samples.interval = a.samples.interval →
        let other : Arranger α := { a with samples }
        (∀ index, (a.beginDrag index).1 = true → other.beginDrag index = a.beginDrag index) ∧
          ((∀ source drop, a.gesture ≠ .dragging source drop) →
            ∀ later, Arranger.Unnoticed (a.run later) (other.run later)) := by
  intro start a
  have stands : Arranger.Stands start operations := Arranger.stands config items operations
  constructor
  · intro sample pending
    cases stands with
    | atRest rests =>
      have free : a.samples.pending = none := rests.free
      rw [free] at pending
      cases pending
    | inDrag before during index source split drag held =>
      obtain ⟨drop, dragging⟩ := drag.lasts during (List.prefix_refl during)
      rw [← split] at dragging
      exact ⟨before, index, source, drop, during, split, drag, dragging, held sample pending⟩
  · intro samples interval other
    constructor
    · intro index begins
      cases found : positionOf a.items index with
      | some position => exact Arranger.beginDrag_unnoticed interval found
      | none =>
        rw [Arranger.beginDrag_of_pinned found] at begins
        cases begins
    · intro still later
      have rests : Arranger.Rests a := by
        cases stands with
        | atRest rests => exact rests
        | inDrag before during index source split drag held =>
          obtain ⟨drop, dragging⟩ := drag.lasts during (List.prefix_refl during)
          rw [← split] at dragging
          exact absurd dragging (still source drop)
      have unnoticed : Arranger.Unnoticed a other := .atRest rests samples interval
      exact unnoticed.run later

/-- A drag that is given up while a sample is held back. -/
def givenUp : List Operation :=
  [.beginDrag 0, (lowerHalf 2 0).operation, (lowerHalf 3 4).operation, .cancel]

/-- Another drag follows at once, and again a sample comes too soon. -/
def draggedAgain : List Operation :=
  givenUp ++ [.beginDrag 3, (lowerHalf 2 5).operation, (lowerHalf 0 6).operation]

/-- The second drag holds back a sample of its own. A sample that the first drag might have left
behind would be noticed neither by the second drag nor by the keys. -/
theorem held_sample_is_of_this_drag_again :
    let start : Arranger Nat := { config := {}, items := pinnedSecond }
    let a := start.run draggedAgain
    let between := start.run givenUp
    let leftover : Arranger Nat :=
      { between with samples := { interval := 16, pending := some ⟨3, false⟩ } }
    a.samples.pending = some ⟨0, false⟩ ∧
      (∃ before index source drop during,
        draggedAgain = before ++ .beginDrag index :: during ∧
          Arranger.DragLasts start before index source during ∧
          a.gesture = .dragging source drop ∧ lastOffered? .vertical during = some ⟨0, false⟩) ∧
      leftover.beginDrag 3 = between.beginDrag 3 ∧
      Arranger.Unnoticed (between.run [.press .down 5, .press .space 6])
        (leftover.run [.press .down 5, .press .space 6]) := by
  intro start a between leftover
  have held : a.samples.pending = some ⟨0, false⟩ := by decide +kernel
  obtain ⟨current, -⟩ := held_sample_is_of_this_drag {} pinnedSecond draggedAgain
  obtain ⟨-, unnoticed⟩ := held_sample_is_of_this_drag {} pinnedSecond givenUp
  have idle : between.gesture = .idle := by decide +kernel
  have still (source drop : Nat) : between.gesture ≠ .dragging source drop := by
    rw [idle]
    exact Gesture.noConfusion
  have interval : 16 = between.samples.interval := by decide +kernel
  obtain ⟨begins, goesOn⟩ := unnoticed { interval := 16, pending := some ⟨3, false⟩ } interval
  have sortable : (between.beginDrag 3).1 = true := by decide +kernel
  -- the runs are compared as they are written, without running them
  with_reducible exact ⟨held, current _ held, begins 3 sortable, goesOn still _⟩

end Picklist.Arrange
