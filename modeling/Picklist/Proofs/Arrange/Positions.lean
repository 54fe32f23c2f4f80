import Picklist.Arrange.Snapshot
import Picklist.Proofs.Arrange.Checked

/-!
# Positions stay in range

The positions that an arranged list keeps come from four places: from the list index of a sortable
item, from a step through the cycle of positions, from the focus that was remembered, and from the
side of an item on which the pointer stands. All four give positions below the number of sortable
items, which never changes. So every position that is kept is one of a sortable item, and the
operations that check their bounds do the same as those that do not.
-/

set_option autoImplicit false

namespace Picklist.Arrange

variable {α : Type}

/-- The positions that a gesture keeps. -/
def Gesture.positions : Gesture → List Nat
  | idle => []
  | selecting focus => [focus]
  | grabbed source drop => [source, drop]
  | dragging source drop => [source, drop]
  | settling position _ => [position]

/-- A move goes from one of the positions to another. -/
theorem Gesture.mem_positions_of_move? {gesture : Gesture} {source drop : Nat}
    (moving : gesture.move? = some (source, drop)) :
    source ∈ gesture.positions ∧ drop ∈ gesture.positions := by
  cases gesture <;> simp_all [move?, positions]

/-- The drop position of a candidate lies in the range of source and candidate. -/
theorem dropPosition_lt {source candidate count : Nat} (inside : source < count)
    (below : candidate < count) (before : Bool) : dropPosition source candidate before < count := by
  unfold dropPosition
  split
  · exact inside
  · dsimp only
    split <;> split <;> omega

/-- An arranged list with `count` sortable items that keeps only positions of sortable items. -/
structure Within (count : Nat) (a : Arranger α) : Prop where
  total : a.total = count
  gesture : ∀ position ∈ a.gesture.positions, position < count
  lastFocus : ∀ focus, a.lastFocus = some focus → focus < count

namespace Within

variable {count : Nat} {a : Arranger α}

/-- At the start nothing is held that could be out of range. -/
theorem start (config : Config) (items : List (Item α)) :
    Within (sortableCount items) { config, items } where
  total := rfl
  gesture := by simp [Gesture.positions]
  lastFocus := by simp

/-- The throttle holds no position. -/
theorem withSamples (h : Within count a) (samples : Timing.Throttle Hover) :
    Within count { a with samples } :=
  ⟨h.total, h.gesture, h.lastFocus⟩

/-- A gesture with its positions in range keeps all in range. -/
theorem withGesture (h : Within count a) {gesture : Gesture}
    (inside : ∀ position ∈ gesture.positions, position < count) :
    Within count { a with gesture } :=
  ⟨h.total, inside, h.lastFocus⟩

/-- The first position of a gesture is in range. -/
theorem first_lt (h : Within count a) {gesture : Gesture} (now : a.gesture = gesture)
    {position : Nat} {rest : List Nat} (keeps : gesture.positions = position :: rest) :
    position < count := by
  apply h.gesture
  rw [now, keeps]
  exact List.mem_cons_self

/-- A candidate that is sortable has a position in range. -/
theorem candidate_lt (h : Within count a) {index candidate : Nat}
    (found : positionOf a.items index = some candidate) : candidate < count := by
  rw [← h.total]
  exact positionOf_lt found

/-- The clamp on the landing place of a dragged item changes nothing. -/
theorem clamp_eq (h : Within count a) {source drop index candidate : Nat}
    (dragging : a.gesture = .dragging source drop)
    (found : positionOf a.items index = some candidate) (before : Bool) :
    min (dropPosition source candidate before) (a.total - 1) =
      dropPosition source candidate before := by
  have inside : source < count := h.first_lt dragging rfl
  have lands := dropPosition_lt inside (h.candidate_lt found) before
  have total := h.total
  omega

/-! ## Pointer samples -/

/-- Beginning a drag keeps all positions in range. -/
theorem beginDrag (h : Within count a) (index : Nat) : Within count (a.beginDrag index).2 := by
  unfold Arranger.beginDrag
  split
  · rename_i position found
    refine ⟨h.total, ?_, h.lastFocus⟩
    simp [Gesture.positions, h.candidate_lt found]
  · exact h

/-- Applying a sample keeps all positions in range. -/
theorem applyHover (h : Within count a) (sample : Hover) :
    Within count (a.applyHover sample).2 := by
  unfold Arranger.applyHover
  split
  · rename_i source drop candidate dragging found
    dsimp only
    split
    · exact h
    · apply h.withGesture
      have inside : source < count := h.first_lt dragging rfl
      have lands := dropPosition_lt inside (h.candidate_lt found) sample.before
      simp only [Gesture.positions, List.mem_cons, List.not_mem_nil, or_false, forall_eq_or_imp,
        forall_eq]
      exact ⟨inside, by omega⟩
  · exact h

/-- Applying a sample takes nothing from less and indexes nothing out of range. -/
theorem checked_applyHover (h : Within count a) (sample : Hover) :
    Checked.applyHover a sample = some (a.applyHover sample) := by
  unfold Checked.applyHover Arranger.applyHover
  cases gesture : a.gesture with
  | dragging source drop =>
    cases found : positionOf a.items sample.candidate with
    | none => rfl
    | some candidate =>
      dsimp only
      rw [Checked.dropPosition_eq, h.clamp_eq gesture found]
      rfl
  | _ => rfl

/-- Offering a sample keeps all positions in range. -/
theorem hover (h : Within count a) (sample : Hover) (now : Nat) :
    Within count (a.hover sample now).2 := by
  unfold Arranger.hover
  split
  · split
    · exact (h.withSamples _).applyHover _
    · exact h.withSamples _
  · exact h

/-- Offering a sample passes all checks. -/
theorem checked_hover (h : Within count a) (sample : Hover) (now : Nat) :
    Checked.hover a sample now = some (a.hover sample now) := by
  unfold Checked.hover Arranger.hover
  cases gesture : a.gesture with
  | dragging source drop =>
    dsimp only
    obtain ⟨_ | released, samples⟩ := a.samples.offer sample now
    · rfl
    · have same := (h.withSamples samples).checked_applyHover released
      rw [gesture] at same
      exact same
  | _ => rfl

/-- The end of settling keeps all positions in range. -/
theorem finishSettling (h : Within count a) (now : Nat) :
    Within count (a.finishSettling now).2 := by
  unfold Arranger.finishSettling
  split
  · split
    · exact h.withGesture (by simp [Gesture.positions])
    · exact h
  · exact h

/-- Passing time keeps all positions in range. -/
theorem tick (h : Within count a) (now : Nat) : Within count (a.tick now).2 := by
  unfold Arranger.tick
  dsimp only
  split
  · exact ((h.withSamples _).applyHover _).finishSettling now
  · exact (h.withSamples _).finishSettling now

/-- Passing time passes all checks. -/
theorem checked_tick (h : Within count a) (now : Nat) :
    Checked.tick a now = some (a.tick now) := by
  unfold Checked.tick Arranger.tick
  obtain ⟨_ | released, samples⟩ := a.samples.poll now
  · rfl
  · dsimp only
    rw [(h.withSamples samples).checked_applyHover released]
    rfl

/-- Letting out what is held keeps all positions in range. -/
theorem flushSample (h : Within count a) : Within count a.flushSample := by
  unfold Arranger.flushSample
  split
  · exact (h.withSamples _).applyHover _
  · exact h.withSamples _

/-- Letting out what is held passes all checks. -/
theorem checked_flushSample (h : Within count a) :
    Checked.flushSample a = some a.flushSample := by
  unfold Checked.flushSample Arranger.flushSample
  obtain ⟨_ | released, samples⟩ := a.samples.flush
  · rfl
  · dsimp only
    rw [(h.withSamples samples).checked_applyHover released]
    rfl

/-! ## Landing -/

/-- A commit keeps all positions in range. -/
theorem commit (h : Within count a) (now : Nat) : Within count (a.commit now).2 := by
  have flushed := h.flushSample
  have out := a.landing_commit now
  generalize a.commit now = result at out ⊢
  cases out with
  | still => exact flushed
  | returned source moving =>
    have inside := flushed.gesture _ (Gesture.mem_positions_of_move? moving).1
    exact ⟨flushed.total, by simpa [Gesture.positions] using inside, by simpa using inside⟩
  | dropped source drop moving =>
    have inside := flushed.gesture _ (Gesture.mem_positions_of_move? moving).2
    refine ⟨?_, by simpa [Gesture.positions] using inside, by simpa using inside⟩
    rw [← flushed.total]
    exact (moveWithinSlots_perm _ source drop _).countP_eq _

/-- A commit passes all checks. -/
theorem checked_commit (h : Within count a) (now : Nat) :
    Checked.commit a now = some (a.commit now) := by
  unfold Checked.commit Arranger.commit
  rw [h.checked_flushSample]
  generalize a.flushSample = b
  dsimp only [Option.bind_some]
  cases b.gesture.move? with
  | none => rfl
  | some move =>
    dsimp only
    by_cases same : move.1 = move.2
    · rw [if_pos same, if_pos same]
    · rw [if_neg same, if_neg same, Checked.moveWithinSlots_eq fun _ => lt_length_of_mem_slots]
      rfl

/-- Giving up keeps all positions in range. -/
theorem cancel (h : Within count a) : Within count a.cancel := by
  have rests (b : Arranger α) (inside : Within count b) :
      Within count { b with samples := b.samples.reset, gesture := .idle } :=
    ⟨inside.total, by simp [Gesture.positions], inside.lastFocus⟩
  unfold Arranger.cancel
  apply rests
  split
  · rename_i source drop moving
    have inside := h.gesture _ (Gesture.mem_positions_of_move? moving).1
    exact ⟨h.total, h.gesture, by simpa using inside⟩
  · rename_i focus _ selecting
    refine ⟨h.total, h.gesture, ?_⟩
    rintro _ ⟨⟩
    apply h.gesture
    cases gesture : a.gesture <;> simp_all [Gesture.focus?, Gesture.positions]
  · exact h

/-! ## Keys -/

/-- Selecting a position in range keeps all in range. -/
theorem select (h : Within count a) {focus : Nat} (inside : focus < count) :
    Within count { a with lastFocus := some focus, gesture := .selecting focus } :=
  ⟨h.total, by simpa [Gesture.positions] using inside, by simpa using inside⟩

/-- Where the focus appears that is not on display. -/
theorem enter_lt (h : Within count a) (places : 0 < count) (direction : Direction) :
    (match a.lastFocus with
      | some focus => focus % a.total
      | none => direction.entry a.total) < count := by
  rw [h.total]
  split
  · exact Nat.mod_lt _ places
  · exact direction.entry_lt places

/-- An arrow that enters the list passes all checks, for there is a last item. -/
theorem checked_enter (h : Within count a) (places : 0 < count) (direction : Direction) :
    Checked.enter a direction =
      some
        (let focus := match a.lastFocus with
          | some focus => focus % a.total
          | none => direction.entry a.total
        { a with lastFocus := some focus, gesture := .selecting focus }) := by
  have nonzero : 0 < a.total := by rw [h.total]; exact places
  unfold Checked.enter
  cases a.lastFocus with
  | some focus =>
    dsimp only
    rw [Checked.remainder_eq nonzero]
    rfl
  | none =>
    cases direction with
    | forward => rfl
    | backward =>
      dsimp only
      unfold Checked.entry
      dsimp only
      rw [Checked.difference_eq nonzero]
      rfl

/-- An arrow keeps all positions in range. -/
theorem arrow (h : Within count a) (places : 0 < count) (direction : Direction) :
    Within count (a.arrow direction) := by
  unfold Arranger.arrow
  dsimp only
  split
  · exact h.select (h.enter_lt places direction)
  · exact h.select (h.enter_lt places direction)
  · rename_i focus selecting
    obtain ⟨next, step, inside⟩ := direction.exists_stepWrapping focus places
    rw [h.total, step]
    exact h.select inside
  · rename_i source drop grabbed
    obtain ⟨next, step, inside⟩ := direction.exists_stepWrapping drop places
    have kept : source < count := h.first_lt grabbed rfl
    rw [h.total, step]
    exact ⟨h.total, by simpa [Gesture.positions] using ⟨kept, inside⟩, h.lastFocus⟩
  · exact h

/-- An arrow passes all checks where there is something to move. -/
theorem checked_arrow (h : Within count a) (places : 0 < count) (direction : Direction) :
    Checked.arrow a direction = some (a.arrow direction) := by
  unfold Checked.arrow Arranger.arrow
  cases a.gesture with
  | idle => exact h.checked_enter places direction
  | settling position deadline => exact h.checked_enter places direction
  | dragging source drop => rfl
  | selecting focus =>
    dsimp only
    rw [Checked.stepWrapping_eq]
    cases direction.stepWrapping focus a.total <;> rfl
  | grabbed source drop =>
    dsimp only
    rw [Checked.stepWrapping_eq]
    cases direction.stepWrapping drop a.total <;> rfl

/-- The space bar keeps all positions in range. -/
theorem space (h : Within count a) (now : Nat) : Within count (a.space now).2 := by
  unfold Arranger.space
  split
  · rename_i focus selecting
    have inside : focus < count := h.first_lt selecting rfl
    exact ⟨h.total, by simpa [Gesture.positions] using inside, h.lastFocus⟩
  · exact h.commit now
  · exact h

/-- A key keeps all positions in range. -/
theorem handleKey (h : Within count a) (key : Key) (now : Nat) :
    Within count (a.handleKey key now).2 := by
  unfold Arranger.handleKey
  by_cases none : a.total = 0
  · rw [if_pos none]
    exact h
  · rw [if_neg none]
    have places : 0 < count := by rw [← h.total]; omega
    split
    · exact h.cancel
    · exact h.space now
    · split
      · exact h.arrow places _
      · exact h

/-- A key passes all checks. -/
theorem checked_handleKey (h : Within count a) (key : Key) (now : Nat) :
    Checked.handleKey a key now = some (a.handleKey key now) := by
  unfold Checked.handleKey Arranger.handleKey
  by_cases none : a.total = 0
  · rw [if_pos none, if_pos none]
  · rw [if_neg none, if_neg none]
    have places : 0 < count := by rw [← h.total]; omega
    cases key with
    | escape => rfl
    | space =>
      dsimp only
      unfold Arranger.space
      cases a.gesture with
      | grabbed source drop => exact h.checked_commit now
      | _ => rfl
    | up | down | left | right =>
      dsimp only
      cases Arranger.direction? a.config.orientation _ with
      | none => rfl
      | some direction =>
        dsimp only
        rw [h.checked_arrow places]
        rfl

/-! ## Runs -/

/-- Every operation keeps all positions in range. -/
theorem perform (h : Within count a) (operation : Operation) :
    Within count (a.perform operation) := by
  cases operation with
  | beginDrag index => exact h.beginDrag index
  | updateDropTarget pointer candidate bounds now => exact h.hover _ now
  | tick now => exact h.tick now
  | commit now => exact h.commit now
  | cancel => exact h.cancel
  | press key now => exact h.handleKey key now

/-- Every operation passes all checks. -/
theorem checked_perform (h : Within count a) (operation : Operation) :
    Checked.perform a operation = some (a.perform operation) := by
  unfold Checked.perform Arranger.perform
  cases operation with
  | beginDrag index => rfl
  | updateDropTarget pointer candidate bounds now =>
    exact congrArg (Option.map Prod.snd) (h.checked_hover _ now)
  | tick now => exact congrArg (Option.map Prod.snd) (h.checked_tick now)
  | commit now => exact congrArg (Option.map Prod.snd) (h.checked_commit now)
  | cancel => rfl
  | press key now => exact congrArg (Option.map Prod.snd) (h.checked_handleKey key now)

/-- Every run keeps all positions in range. -/
theorem run (h : Within count a) (operations : List Operation) :
    Within count (a.run operations) :=
  Arranger.run_induction h (fun _ operation kept => kept.perform operation) operations

/-- Every run passes all checks. -/
theorem checked_run (h : Within count a) (operations : List Operation) :
    Checked.run a operations = some (a.run operations) := by
  induction operations generalizing a with
  | nil => rfl
  | cons operation rest ih =>
    unfold Checked.run at ih ⊢
    rw [List.foldlM_cons, h.checked_perform]
    exact ih (h.perform operation)

/-- Where nothing can be moved nothing is going on. -/
theorem idle_of_none (h : Within 0 a) : a.gesture = .idle := by
  cases gesture : a.gesture with
  | idle => rfl
  | selecting | grabbed | dragging | settling =>
    have inside := h.gesture _ (by rw [gesture]; exact List.mem_cons_self)
    exact absurd inside (Nat.not_lt_zero _)

end Within

/-- Computing the display order passes all checks. -/
theorem Checked.displayOrder_eq (a : Arranger α) :
    Checked.displayOrder a = some a.displayOrder := by
  unfold Checked.displayOrder Arranger.displayOrder
  cases a.gesture.move? with
  | none => rfl
  | some move =>
    apply Checked.moveWithinSlots_eq
    intro slot member
    rw [List.length_range]
    exact lt_length_of_mem_slots member

/-- **Every position is one of a sortable item.** After any run the positions that the gesture keeps
and the remembered focus are below the number of sortable items, so there is no gesture without
sortable items; an item that is moved has a landing place; and the clamp on the landing place of a
dragged item changes nothing. The run is the same if every difference, remainder, slot and exchange
checks its bounds, and so is the order on display. -/
theorem positions_stay_in_range (config : Config) (items : List (Item α))
    (operations : List Operation) :
    let a := Arranger.run { config, items } operations
    (∀ position ∈ a.gesture.positions, position < a.total) ∧
      (∀ focus, a.lastFocus = some focus → focus < a.total) ∧
      (a.total = 0 → a.gesture = .idle) ∧
      a.movedFrom.isSome = a.movedTo.isSome ∧
      (∀ source drop index candidate before, a.gesture = .dragging source drop →
        positionOf a.items index = some candidate →
        min (dropPosition source candidate before) (a.total - 1) =
          dropPosition source candidate before) ∧
      Checked.run { config, items } operations = some a ∧
      Checked.displayOrder a = some a.displayOrder := by
  intro a
  have start := Within.start config items
  have within : Within (sortableCount items) a := start.run operations
  refine ⟨?_, ?_, ?_, ?_, ?_, start.checked_run operations, Checked.displayOrder_eq a⟩
  · rw [within.total]
    exact within.gesture
  · rw [within.total]
    exact within.lastFocus
  · intro none
    have empty : Within 0 a := by rwa [← within.total, none] at within
    exact empty.idle_of_none
  · unfold Arranger.movedFrom Arranger.movedTo
    rw [Option.isSome_map, Option.isSome_map]
  · intro source drop index candidate before dragging found
    exact within.clamp_eq dragging found before

/-- The first of three sortable items is dragged over the last one, by a pointer whose place is not
a number. -/
def draggedNowhere : List Operation :=
  let nan : Float := 0.0 / 0.0
  [.beginDrag 0, .updateDropTarget ⟨nan, nan⟩ 3 ⟨0, 3, 10, 1⟩ 5]

/-- Such a pointer stands before no midpoint, so the item lands last and the clamp lets it. -/
theorem positions_stay_in_range_nan :
    let items : List (Item Nat) := [⟨1, true⟩, ⟨2, false⟩, ⟨3, true⟩, ⟨4, true⟩]
    let a := Arranger.run { config := {}, items } draggedNowhere
    a.gesture = .dragging 0 2 ∧ 2 < a.total ∧
      min (dropPosition 0 2 false) (a.total - 1) = dropPosition 0 2 false ∧
      Checked.run { config := {}, items } draggedNowhere = some a := by
  intro items a
  obtain ⟨inside, -, -, -, clamp, checked, -⟩ := positions_stay_in_range {} items draggedNowhere
  have gesture : a.gesture = .dragging 0 2 := by decide +kernel
  have found : positionOf a.items 3 = some 2 := by decide +kernel
  refine ⟨gesture, ?_, clamp 0 2 3 2 false gesture found, checked⟩
  apply inside
  rw [gesture]
  decide

end Picklist.Arrange
