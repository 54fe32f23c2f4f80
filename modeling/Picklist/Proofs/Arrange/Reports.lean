import Picklist.Proofs.Arrange.Throttling

/-!
# What is reported

A pointer sample and a tick report whether anything visible has changed. Nothing but the gesture
can: a sample moves the landing place of a drag, and a tick does the same with a held sample or ends
the settling of an item. A drag and settling exclude each other, so the two cannot cancel out, and
the report is exact. A caller who looks again only when a change is reported has seen all there is.
-/

set_option autoImplicit false

namespace Picklist.Timing

/-- A poll leaves nothing to release for a second one at the same instant. -/
theorem Throttle.poll_again {β : Type} (t : Throttle β) (now : Nat) :
    (t.poll now).2.poll now = (none, (t.poll now).2) := by
  unfold poll
  cases pending : t.pending with
  | none => simp [pending]
  | some value =>
    dsimp only
    by_cases isOpen : t.isOpen now = true
    · simp [isOpen]
    · simp [isOpen, pending]

end Picklist.Timing

namespace Picklist.Arrange

variable {α : Type}

/-- What changes on display while the items stay: where the gesture is, and the display order. -/
def Snapshot.look (s : Snapshot α) : Gesture × List Nat := (s.gesture, s.order)

/-- What became of an arranged list, with a report that tells exactly whether it looks different. -/
structure ExactReport (a : Arranger α) (result : Bool × Arranger α) : Prop where
  changed_iff : result.1 = true ↔ result.2.snapshot.look ≠ a.snapshot.look
  unchanged : result.1 = false → result.2.snapshot = a.snapshot
  items : result.2.items = a.items

namespace ExactReport

variable {a : Arranger α} {result : Bool × Arranger α}

/-- A report is exact if it tells whether the gesture has changed, and nothing else has. -/
theorem of_gesture (list : SameList a result.2)
    (announcement : result.2.announcement = a.announcement)
    (changed : result.1 = true ↔ result.2.gesture ≠ a.gesture) : ExactReport a result := by
  have same (gesture : result.2.gesture = a.gesture) : result.2.snapshot = a.snapshot := by
    unfold Arranger.snapshot Arranger.displayOrder
    rw [list.items, list.config, announcement, gesture]
  refine ⟨changed.trans ⟨fun moved look => moved (congrArg Prod.fst look), ?_⟩, ?_, list.items⟩
  · intro look gesture
    exact look (congrArg Snapshot.look (same gesture))
  · intro silent
    apply same
    by_contra moved
    rw [changed.mpr moved] at silent
    cases silent

/-- Whoever changes nothing may say so. -/
theorem silent (a : Arranger α) : ExactReport a (false, a) :=
  of_gesture (.refl a) rfl (by simp)

/-- The throttle is not on display. -/
theorem of_samples {samples : Timing.Throttle Hover}
    (report : ExactReport { a with samples } result) : ExactReport a result :=
  ⟨report.changed_iff, report.unchanged, report.items⟩

end ExactReport

namespace Arranger

variable (a : Arranger α)

/-! ## One motion -/

/-- Applying a sample tells truly whether the arranger changed. -/
theorem exactReport_applyHover (sample : Hover) : ExactReport a (a.applyHover sample) := by
  unfold applyHover
  split
  · rename_i source drop candidate dragging _
    dsimp only
    split
    · exact .silent a
    · rename_i elsewhere
      refine .of_gesture ⟨rfl, rfl⟩ rfl ?_
      simpa [dragging] using elsewhere
  · exact .silent a

/-- Offering a sample tells truly whether the arranger changed. -/
theorem exactReport_hover (sample : Hover) (now : Nat) : ExactReport a (a.hover sample now) := by
  unfold hover
  split
  · split
    · exact (exactReport_applyHover _ _).of_samples
    · exact (ExactReport.silent _).of_samples
  · exact .silent a

/-- The end of settling tells truly whether the arranger changed. -/
theorem exactReport_finishSettling (now : Nat) : ExactReport a (a.finishSettling now) := by
  unfold finishSettling
  split
  · rename_i settling
    split
    · refine .of_gesture ⟨rfl, rfl⟩ rfl ?_
      simp [settling]
    · exact .silent a
  · exact .silent a

/-- A tick applies a released sample, or else it ends settling. -/
theorem tick_cases (now : Nat) :
    (∃ sample samples, a.samples.poll now = (some sample, samples) ∧
        (∃ source drop, a.gesture = .dragging source drop) ∧
        a.tick now = { a with samples }.applyHover sample) ∨
      ∃ samples, (a.samples.poll now).2 = samples ∧
        a.tick now = { a with samples }.finishSettling now := by
  unfold tick
  rcases polled : a.samples.poll now with ⟨_ | sample, samples⟩
  · exact .inr ⟨samples, rfl, by simp⟩
  · by_cases dragged : ∃ source drop, a.gesture = .dragging source drop
    · left
      refine ⟨sample, samples, rfl, dragged, ?_⟩
      obtain ⟨source, drop, dragging⟩ := dragged
      have put : ({ a with samples } : Arranger α).gesture = .dragging source drop := dragging
      have still := applyHover_dragging put sample
      dsimp only
      rw [finishSettling_eq (by rw [still]; exact fun _ _ => Gesture.noConfusion), Bool.or_false]
    · right
      refine ⟨samples, rfl, ?_⟩
      have resting (source drop : Nat) :
          ({ a with samples } : Arranger α).gesture ≠ .dragging source drop :=
        fun dragging => dragged ⟨source, drop, dragging⟩
      dsimp only
      rw [applyHover_resting resting, Bool.false_or]

/-- Passing time tells truly whether the arranger changed. -/
theorem exactReport_tick (now : Nat) : ExactReport a (a.tick now) := by
  obtain ⟨sample, samples, -, -, applied⟩ | ⟨samples, -, settled⟩ := a.tick_cases now
  · rw [applied]
    exact (exactReport_applyHover _ _).of_samples
  · rw [settled]
    exact (exactReport_finishSettling _ _).of_samples

/-! ## A second tick -/

/-- The end of settling leaves the throttle alone. -/
@[simp]
theorem finishSettling_samples (now : Nat) : (a.finishSettling now).2.samples = a.samples := by
  unfold finishSettling
  split
  · split <;> rfl
  · rfl

/-- What has settled does not settle again at the same instant. -/
theorem finishSettling_again (now : Nat) :
    (a.finishSettling now).2.finishSettling now = (false, (a.finishSettling now).2) := by
  unfold finishSettling
  cases gesture : a.gesture with
  | settling position deadline =>
    dsimp only
    by_cases due : deadline ≤ now
    · simp [due]
    · simp [due, gesture]
  | _ => simp [gesture]

/-- Where the throttle lets nothing out, passing time is the end of settling. -/
theorem tick_of_quiet {now : Nat} (quiet : a.samples.poll now = (none, a.samples)) :
    a.tick now = a.finishSettling now := by
  unfold tick
  rw [quiet]
  simp

/-- A second tick at the same instant has nothing to do. -/
theorem tick_again (now : Nat) : (a.tick now).2.tick now = (false, (a.tick now).2) := by
  obtain ⟨sample, samples, polled, ⟨source, drop, dragging⟩, applied⟩ |
      ⟨samples, polled, settled⟩ :=
    a.tick_cases now
  · have put : ({ a with samples } : Arranger α).gesture = .dragging source drop := dragging
    have still := applyHover_dragging put sample
    have quiet := a.samples.poll_again now
    rw [polled] at quiet
    rw [applied, tick_of_quiet _ (by rw [applyHover_samples]; exact quiet)]
    exact finishSettling_eq (by rw [still]; exact fun _ _ => Gesture.noConfusion) now
  · have quiet := a.samples.poll_again now
    rw [polled] at quiet
    rw [settled, tick_of_quiet _ (by rw [finishSettling_samples]; exact quiet)]
    exact finishSettling_again _ now

/-! ## Looking again when told so -/

/-- Feeds a motion to the gesture. Says whether anything visible changed. -/
def feed : Motion → Bool × Arranger α
  | .sample pointer candidate bounds now => a.updateDropTarget pointer candidate bounds now
  | .tick now => a.tick now

/-- Every motion tells truly whether the arranger changed. -/
theorem exactReport_feed (motion : Motion) : ExactReport a (a.feed motion) := by
  cases motion with
  | sample pointer candidate bounds now => exact exactReport_hover a _ now
  | tick now => exact exactReport_tick a now

/-- What a caller has on display, and the list, after one more motion: the caller looks again only
if a change is reported. -/
def watch (seen : Snapshot α × Arranger α) (motion : Motion) : Snapshot α × Arranger α :=
  let (changed, a) := seen.2.feed motion
  (if changed then a.snapshot else seen.1, a)

/-- Whoever looks only when told to has the current view after a motion. -/
theorem watch_current (motion : Motion) :
    watch (a.snapshot, a) motion = ((a.feed motion).2.snapshot, (a.feed motion).2) := by
  unfold watch
  cases changed : (a.feed motion).1 with
  | true => simp [changed]
  | false => simp [changed, (a.exactReport_feed motion).unchanged changed]

/-- Whoever looks only when told to has the current view after a run. -/
theorem foldl_watch (motions : List Motion) :
    motions.foldl watch (a.snapshot, a) =
      ((a.run (motions.map Motion.operation)).snapshot, a.run (motions.map Motion.operation)) := by
  induction motions generalizing a with
  | nil => rfl
  | cons motion rest ih =>
    have fed : (a.feed motion).2 = a.perform motion.operation := by cases motion <;> rfl
    rw [List.foldl_cons, watch_current, ih, fed]
    rfl

end Arranger

/-- **Changes are reported exactly.** Whatever state an arranged list is in: a pointer sample and a
tick report a change if and only if the gesture or the display order differs afterwards, if they do
not then the whole snapshot is the same, and the items are the same in any case. A second tick at
the same instant reports nothing and does nothing. So a caller who looks again only when a change is
reported has the current state on display after any samples and ticks. -/
theorem changes_are_reported (a : Arranger α) :
    (∀ (pointer : Point) (candidate : Nat) (bounds : Bounds) (now : Nat),
      ExactReport a (a.updateDropTarget pointer candidate bounds now)) ∧
    (∀ now : Nat, ExactReport a (a.tick now) ∧
      (a.tick now).2.tick now = (false, (a.tick now).2)) ∧
    ∀ motions : List Motion, motions.foldl Arranger.watch (a.snapshot, a) =
      ((a.run (motions.map Motion.operation)).snapshot,
        a.run (motions.map Motion.operation)) := by
  refine ⟨fun pointer candidate bounds now => ?_, fun now => ?_, a.foldl_watch⟩
  · exact a.exactReport_feed (.sample pointer candidate bounds now)
  · exact ⟨a.exactReport_tick now, a.tick_again now⟩

end Picklist.Arrange
