import Picklist.Arrange.Arranger

/-!
# Runs of an arranged list

A run is any row of operations of the caller, at any instants and with any pointer positions. Only a
landing changes the items: every other operation moves the gesture, the held sample, the remembered
focus or the announcement, and leaves settings and items alone. What a commit does is told here once
for the three ways in which it can end.
-/

set_option autoImplicit false

namespace Picklist.Arrange

/-- What a caller does with an arranged list. -/
inductive Operation where
  | beginDrag (index : Nat)
  | updateDropTarget (pointer : Point) (candidate : Nat) (bounds : Bounds) (now : Nat)
  | tick (now : Nat)
  | commit (now : Nat)
  | cancel
  | press (key : Key) (now : Nat)

variable {α : Type}

namespace Arranger

/-- The arranged list after an operation. -/
def perform (a : Arranger α) : Operation → Arranger α
  | .beginDrag index => (a.beginDrag index).2
  | .updateDropTarget pointer candidate bounds now =>
    (a.updateDropTarget pointer candidate bounds now).2
  | .tick now => (a.tick now).2
  | .commit now => (a.commit now).2
  | .cancel => a.cancel
  | .press key now => (a.handleKey key now).2

/-- The arranged list after a run. -/
def run (a : Arranger α) (operations : List Operation) : Arranger α :=
  operations.foldl perform a

/-- What holds of an arranged list and is kept by every operation holds after every run. -/
theorem run_induction {holds : Arranger α → Prop} {a : Arranger α} (start : holds a)
    (kept : ∀ (b : Arranger α) (operation : Operation), holds b → holds (b.perform operation))
    (operations : List Operation) : holds (a.run operations) := by
  induction operations generalizing a with
  | nil => exact start
  | cons operation rest ih => exact ih (kept a operation start)

/-- A run with one more operation ends with that operation. -/
theorem run_concat (a : Arranger α) (operations : List Operation) (operation : Operation) :
    a.run (operations ++ [operation]) = (a.run operations).perform operation := by
  unfold run
  rw [List.foldl_append, List.foldl_cons, List.foldl_nil]

end Arranger

/-! ## Operations that leave the items alone -/

/-- Two arranged lists with the same settings and items. -/
structure SameList (a b : Arranger α) : Prop where
  config : b.config = a.config
  items : b.items = a.items

namespace SameList

variable {a b c : Arranger α}

/-- An arranger has the same list as itself. -/
theorem refl (a : Arranger α) : SameList a a := ⟨rfl, rfl⟩

/-- Having the same list carries over. -/
theorem trans (h : SameList a b) (k : SameList b c) : SameList a c :=
  ⟨k.config.trans h.config, k.items.trans h.items⟩

end SameList

namespace Arranger

variable (a : Arranger α)

/-- Beginning a drag leaves the list alone. -/
theorem sameList_beginDrag (index : Nat) : SameList a (a.beginDrag index).2 := by
  unfold beginDrag
  split <;> exact ⟨rfl, rfl⟩

/-- Applying a sample leaves the list alone. -/
theorem sameList_applyHover (sample : Hover) : SameList a (a.applyHover sample).2 := by
  unfold applyHover
  split
  · dsimp only
    split <;> exact ⟨rfl, rfl⟩
  · exact .refl a

/-- The throttle counts neither as a setting nor as an item. -/
theorem sameList_released (samples : Timing.Throttle Hover) (sample : Hover) :
    SameList a ({ a with samples }.applyHover sample).2 := by
  have put : SameList a { a with samples } := ⟨rfl, rfl⟩
  exact put.trans (sameList_applyHover _ sample)

/-- Offering a sample leaves the list alone. -/
theorem sameList_hover (sample : Hover) (now : Nat) : SameList a (a.hover sample now).2 := by
  unfold hover
  split
  · split
    · exact sameList_released a _ _
    · exact ⟨rfl, rfl⟩
  · exact .refl a

/-- The end of settling leaves the list alone. -/
theorem sameList_finishSettling (now : Nat) : SameList a (a.finishSettling now).2 := by
  unfold finishSettling
  split
  · split <;> exact ⟨rfl, rfl⟩
  · exact .refl a

/-- Passing time leaves the list alone. -/
theorem sameList_tick (now : Nat) : SameList a (a.tick now).2 := by
  unfold tick
  dsimp only
  split
  · exact (sameList_released a _ _).trans (sameList_finishSettling _ now)
  · rename_i samples _
    have put : SameList a { a with samples } := ⟨rfl, rfl⟩
    exact put.trans (sameList_finishSettling _ now)

/-- Letting out what is held leaves the list alone. -/
theorem sameList_flushSample : SameList a a.flushSample := by
  unfold flushSample
  split
  · exact sameList_released a _ _
  · exact ⟨rfl, rfl⟩

/-- Giving up leaves the list alone. -/
theorem sameList_cancel : SameList a a.cancel := by
  unfold cancel
  dsimp only
  split <;> exact ⟨rfl, rfl⟩

/-- Arrows leave the list alone. -/
theorem sameList_arrow (direction : Direction) : SameList a (a.arrow direction) := by
  unfold arrow
  dsimp only
  split
  · exact ⟨rfl, rfl⟩
  · exact ⟨rfl, rfl⟩
  · split <;> exact ⟨rfl, rfl⟩
  · split <;> exact ⟨rfl, rfl⟩
  · exact .refl a

end Arranger

/-! ## Landing -/

/-- The ways in which the commit of an arranged list that holds back no sample can end. -/
inductive Landing (a : Arranger α) (now : Nat) : Option (List α) × Arranger α → Prop where
  | still (rest : a.gesture.move? = none) : Landing a now (none, a)
  | returned (source : Nat) (moving : a.gesture.move? = some (source, source)) :
    Landing a now (none,
      { a with
        gesture := .settling source (now + a.config.settleDelay)
        lastFocus := some source
        announcement := some (.returned source a.total) })
  | dropped (source drop : Nat) (moving : a.gesture.move? = some (source, drop))
    (elsewhere : source ≠ drop) :
    Landing a now (some ((moveWithinSlots (slots a.items) source drop a.items).map Item.value),
      { a with
        gesture := .settling drop (now + a.config.settleDelay)
        lastFocus := some drop
        items := moveWithinSlots (slots a.items) source drop a.items
        announcement := some (.dropped drop a.total) })

namespace Arranger

/-- A commit applies the held sample first and then lands. -/
theorem landing_commit (a : Arranger α) (now : Nat) : Landing a.flushSample now (a.commit now) := by
  unfold commit
  generalize a.flushSample = b
  dsimp only
  cases moving : b.gesture.move? with
  | none => exact .still moving
  | some move =>
    obtain ⟨source, drop⟩ := move
    dsimp only
    by_cases same : source = drop
    · subst same
      rw [if_pos rfl]
      exact .returned source moving
    · rw [if_neg same]
      exact .dropped source drop moving same

/-! ## Drags -/

/-- A sortable item can be dragged, and its drag begins without a held sample. -/
theorem beginDrag_of_sortable {a : Arranger α} {index source : Nat}
    (sortable : positionOf a.items index = some source) :
    a.beginDrag index =
      (true, { a with samples := a.samples.reset, gesture := .dragging source source }) := by
  unfold beginDrag
  rw [sortable]

/-- A pinned item cannot be dragged. -/
theorem beginDrag_of_pinned {a : Arranger α} {index : Nat}
    (pinned : positionOf a.items index = none) : a.beginDrag index = (false, a) := by
  unfold beginDrag
  rw [pinned]

/-- A sample that is applied while nothing is dragged does nothing. -/
theorem applyHover_resting {a : Arranger α}
    (resting : ∀ source drop, a.gesture ≠ .dragging source drop)
    (sample : Hover) : a.applyHover sample = (false, a) := by
  unfold applyHover
  split
  · rename_i dragging _
    exact absurd dragging (resting _ _)
  · rfl

/-! ## Settings -/

/-- A commit leaves the settings alone. -/
theorem commit_config (a : Arranger α) (now : Nat) : (a.commit now).2.config = a.config := by
  have same : a.flushSample.config = a.config := (sameList_flushSample a).config
  have out := a.landing_commit now
  generalize a.commit now = result at out ⊢
  cases out <;> exact same

/-- No operation changes the settings. -/
theorem perform_config (a : Arranger α) (operation : Operation) :
    (a.perform operation).config = a.config := by
  cases operation with
  | beginDrag index => exact (sameList_beginDrag a index).config
  | updateDropTarget pointer candidate bounds now => exact (sameList_hover a _ now).config
  | tick now => exact (sameList_tick a now).config
  | commit now => exact commit_config a now
  | cancel => exact (sameList_cancel a).config
  | press key now =>
    show (a.handleKey key now).2.config = a.config
    unfold handleKey
    split
    · rfl
    · split
      · exact (sameList_cancel a).config
      · unfold space
        split
        · rfl
        · exact commit_config a now
        · rfl
      · split
        · exact (sameList_arrow a _).config
        · rfl

/-- No run changes the settings. -/
theorem run_config (a : Arranger α) (operations : List Operation) :
    (a.run operations).config = a.config := by
  refine @run_induction α (fun b => b.config = a.config) a rfl ?_ operations
  intro b operation same
  rw [perform_config, same]

/-! ## The held sample -/

/-- Where nothing is held nothing is let out. -/
theorem flushSample_of_none {a : Arranger α} (free : a.samples.pending = none) :
    a.flushSample = a := by
  cases a with
  | mk config items gesture samples lastFocus announcement =>
    cases samples with
    | mk interval lastRelease pending =>
      obtain rfl : pending = none := free
      rfl

/-- What is held is applied when it is let out. -/
theorem flushSample_of_some {a : Arranger α} {sample : Hover}
    (held : a.samples.pending = some sample) :
    a.flushSample =
      ({ a with samples := { a.samples with pending := none } }.applyHover sample).2 := by
  unfold flushSample Timing.Throttle.flush
  rw [held]

/-- Applying a sample leaves the throttle alone. -/
@[simp]
theorem applyHover_samples (a : Arranger α) (sample : Hover) :
    (a.applyHover sample).2.samples = a.samples := by
  unfold applyHover
  split
  · dsimp only
    split <;> rfl
  · rfl

/-- Nothing is held any more once it was let out. -/
theorem flushSample_pending (a : Arranger α) : a.flushSample.samples.pending = none := by
  cases held : a.samples.pending with
  | none => rw [flushSample_of_none held, held]
  | some sample => rw [flushSample_of_some held, applyHover_samples]

/-- A sample that is applied to an arranged list in which nothing is dragged does nothing. -/
theorem flushSample_gesture {a : Arranger α}
    (resting : ∀ source drop, a.gesture ≠ .dragging source drop) :
    a.flushSample.gesture = a.gesture := by
  cases held : a.samples.pending with
  | none => rw [flushSample_of_none held]
  | some sample =>
    rw [flushSample_of_some held]
    unfold applyHover
    split
    · rename_i source drop _ dragging _
      exact absurd dragging (resting source drop)
    · rfl

end Arranger

end Picklist.Arrange
