import Picklist.Proofs.Arrange.InHand

/-!
# The focus comes back to the item

When a move ends or the focus is given up, a position is remembered: where the item has landed,
where a move that was given up began, or where the focus was. In the order that the items have from
then on, it is the position of the item that the gesture was about. Nothing changes that until an
item is pressed or an arrow along the axis brings the focus there.
-/

set_option autoImplicit false

namespace Picklist.Arrange

variable {α : Type}

/-- Neither is an item moved nor is one in focus. -/
inductive Gesture.Rests : Gesture → Prop where
  | idle : Rests idle
  | settling (position deadline : Nat) : Rests (settling position deadline)

/-- The operations that drop the item that is moved. -/
inductive Drops (a : Arranger α) : Operation → Prop where
  | commit (now : Nat) (moving : ∃ source drop, a.gesture.move? = some (source, drop)) :
    Drops a (.commit now)
  | space (now : Nat) (grabbed : ∃ source drop, a.gesture = .grabbed source drop) :
    Drops a (.press .space now)

/-- The operations that give up a move or the focus. -/
inductive GivesUp (a : Arranger α) : Operation → Prop where
  | cancel (busy : ¬ a.gesture.Rests) : GivesUp a .cancel
  | escape (now : Nat) (busy : ¬ a.gesture.Rests) : GivesUp a (.press .escape now)

/-- The operation presses no item and is no arrow along the axis. -/
def Operation.Waits (orientation : Orientation) (operation : Operation) : Prop :=
  operation.step? orientation = none ∧ ∀ index, operation ≠ .beginDrag index

namespace Gesture.Rests

variable {gesture : Gesture}

/-- What rests is not dragged. -/
theorem undragged (rests : gesture.Rests) (source drop : Nat) :
    gesture ≠ .dragging source drop := by
  rintro rfl
  cases rests

/-- What rests is not moved. -/
theorem unmoved (rests : gesture.Rests) : gesture.move? = none := by
  cases rests <;> rfl

end Gesture.Rests

namespace Arranger

variable {a : Arranger α} {source drop count : Nat}

/-- The item at the remembered position. -/
def remembered? (a : Arranger α) : Option (Item α) :=
  a.lastFocus.bind (itemAt? a.items)

/-- An item that is moved is what the gesture is about. -/
theorem subject?_of_moving (moving : a.gesture.move? = some (source, drop)) :
    a.subject? = itemAt? a.items source := by
  rw [subject?, (Gesture.of_move? moving).1]
  rfl

/-! ## Letting go -/

/-- A sample changes where a moved item goes, not which item it is. -/
theorem applyHover_move? (moving : a.gesture.move? = some (source, drop)) (sample : Hover) :
    ∃ next, (a.applyHover sample).2.gesture.move? = some (source, next) := by
  unfold applyHover
  split
  · rename_i source' drop' candidate dragging found
    dsimp only
    split
    · exact ⟨drop, moving⟩
    · rw [dragging] at moving
      obtain ⟨rfl, -⟩ := Prod.mk.inj (Option.some.inj moving)
      exact ⟨_, rfl⟩
  · exact ⟨drop, moving⟩

/-- The held sample may change where a moving item lands, but not which item it is. -/
theorem flushSample_move? (moving : a.gesture.move? = some (source, drop)) :
    ∃ next, a.flushSample.gesture.move? = some (source, next) := by
  cases held : a.samples.pending with
  | none => exact ⟨drop, by rw [flushSample_of_none held, moving]⟩
  | some sample =>
    rw [flushSample_of_some held]
    let released : Arranger α := { a with samples := { a.samples with pending := none } }
    have put : released.gesture.move? = some (source, drop) := moving
    exact applyHover_move? put sample

/-- A commit of a move settles the item that was moved, and remembers where it is. -/
theorem commit_of_moving (h : Within count a) (moving : a.gesture.move? = some (source, drop))
    (now : Nat) :
    ∃ landed deadline, (a.commit now).2.gesture = .settling landed deadline ∧
      (a.commit now).2.lastFocus = some landed ∧
      itemAt? (a.commit now).2.items landed = itemAt? a.items source := by
  have items : a.flushSample.items = a.items := (sameList_flushSample a).items
  have within : Within count a.flushSample := h.flushSample
  obtain ⟨next, moving⟩ := flushSample_move? moving
  have out := a.landing_commit now
  generalize a.commit now = result at out ⊢
  cases out with
  | still rest =>
    rw [rest] at moving
    cases moving
  | returned place here =>
    obtain ⟨rfl, -⟩ := Prod.mk.inj (Option.some.inj (here.symm.trans moving))
    exact ⟨place, _, rfl, rfl, by rw [← items]⟩
  | dropped place target here elsewhere =>
    obtain ⟨rfl, rfl⟩ := Prod.mk.inj (Option.some.inj (here.symm.trans moving))
    obtain ⟨hs, ht⟩ := Gesture.mem_positions_of_move? here
    have hs : place < sortableCount a.flushSample.items := by
      rw [← total, within.total]
      exact within.gesture place hs
    have ht : target < sortableCount a.flushSample.items := by
      rw [← total, within.total]
      exact within.gesture target ht
    refine ⟨target, _, rfl, rfl, ?_⟩
    rw [← items]
    exact (relocated_sortable hs ht).entry

/-- A position that is kept is one of a sortable item. -/
theorem total_ne_zero (h : Within count a) (busy : a.gesture ≠ .idle) : a.total ≠ 0 := by
  intro none
  rw [h.total] at none
  subst none
  exact busy h.idle_of_none

/-- Whatever drops an item is a commit of a move. -/
theorem perform_drops (h : Within count a) {operation : Operation} (drops : Drops a operation) :
    ∃ source drop now, a.gesture.move? = some (source, drop) ∧
      a.perform operation = (a.commit now).2 := by
  cases drops with
  | commit now moving =>
    obtain ⟨source, drop, moving⟩ := moving
    exact ⟨source, drop, now, moving, rfl⟩
  | space now grabbed =>
    obtain ⟨source, drop, grabbed⟩ := grabbed
    have some_sortable : a.total ≠ 0 := by
      apply total_ne_zero h
      rw [grabbed]
      exact Gesture.noConfusion
    refine ⟨source, drop, now, by rw [grabbed]; rfl, ?_⟩
    exact congrArg Prod.snd (handleKey_drop grabbed some_sortable now).1

/-- Right after a drop the item that was moved is settling. -/
theorem settles_of_drops (h : Within count a) {index : Nat} {item : Item α}
    (plays : Plays a .moving index item) {operation : Operation} (drops : Drops a operation) :
    ∃ landed, Plays (a.perform operation) .settling landed item := by
  obtain ⟨subject, -⟩ := plays.subject? ⟨Role.noConfusion, Role.noConfusion⟩
  obtain ⟨source, drop, now, moving, performed⟩ := perform_drops h drops
  obtain ⟨position, deadline, settling, -, same⟩ := commit_of_moving h moving now
  have subject' : (a.commit now).2.subject? = some item := by
    rw [← subject, subject?_of_moving moving, subject?, settling]
    exact same
  obtain ⟨landed, plays⟩ := exists_plays subject'
  rw [settling] at plays
  rw [performed]
  exact ⟨landed, plays⟩

/-- Giving up a gesture rests, and remembers the item that it was about. -/
theorem cancel_remembers (busy : ¬ a.gesture.Rests) :
    a.cancel.gesture.Rests ∧ a.cancel.remembered? = a.subject? := by
  refine ⟨.idle, ?_⟩
  unfold cancel remembered? subject?
  cases gesture : a.gesture with
  | idle => exact absurd (by rw [gesture]; exact .idle) busy
  | settling position deadline => exact absurd (by rw [gesture]; exact .settling _ _) busy
  | selecting | grabbed | dragging => rfl

/-- When an item is let go, its position is remembered. -/
theorem remembers_of_lets_go (h : Within count a) {operation : Operation}
    (lets_go : Drops a operation ∨ GivesUp a operation) :
    (a.perform operation).gesture.Rests ∧ (a.perform operation).remembered? = a.subject? := by
  obtain drops | gives_up := lets_go
  · obtain ⟨source, drop, now, moving, performed⟩ := perform_drops h drops
    obtain ⟨landed, deadline, settling, lastFocus, same⟩ := commit_of_moving h moving now
    rw [performed, settling, subject?_of_moving moving, remembered?, lastFocus]
    exact ⟨.settling landed deadline, same⟩
  · cases gives_up with
    | cancel busy => exact cancel_remembers busy
    | escape now busy =>
      have not_idle : a.gesture ≠ .idle := by
        intro idle
        rw [idle] at busy
        exact busy .idle
      have cancels : a.perform (.press .escape now) = a.cancel :=
        congrArg Prod.snd (handleKey_escape (total_ne_zero h not_idle) now)
      rw [cancels]
      exact cancel_remembers busy

/-! ## Waiting -/

/-- Giving up what rests forgets the selection alone. -/
theorem cancel_of_rests (rests : a.gesture.Rests) :
    a.cancel = { a with gesture := .idle, samples := a.samples.reset } := by
  unfold cancel
  generalize a.gesture = gesture at rests
  cases rests <;> rfl

/-- At rest nothing but the gesture and the throttle changes until an item is pressed or an arrow
along the axis comes. -/
theorem perform_waits (rests : a.gesture.Rests) {operation : Operation}
    (waits : operation.Waits a.config.orientation) :
    ∃ gesture samples, gesture.Rests ∧ a.perform operation = { a with gesture, samples } := by
  cases operation with
  | beginDrag index => exact absurd rfl (waits.2 index)
  | updateDropTarget pointer candidate bounds now =>
    exact ⟨_, _, rests, congrArg Prod.snd (hover_of_undragged rests.undragged _ now)⟩
  | tick now =>
    obtain ⟨samples, kept | ⟨-, settled⟩⟩ := tick_of_undragged rests.undragged now
    · exact ⟨_, samples, rests, kept⟩
    · exact ⟨_, samples, .idle, settled⟩
  | commit now =>
    refine ⟨_, { a.samples with pending := none }, rests, ?_⟩
    show (a.commit now).2 = _
    have flushed : a.flushSample = { a with samples := { a.samples with pending := none } } :=
      flushSample_atRest rests.undragged a.samples
    unfold commit
    rw [flushed]
    dsimp only
    rw [rests.unmoved]
  | cancel => exact ⟨_, _, .idle, cancel_of_rests rests⟩
  | press key now =>
    by_cases none_sortable : a.total = 0
    · exact ⟨_, _, rests, congrArg Prod.snd (handleKey_of_unsortable none_sortable key now)⟩
    · obtain rfl | rfl | arrow := key.space_or_escape_or_isArrow
      · refine ⟨a.gesture, a.samples, rests, ?_⟩
        show (a.handleKey .space now).2 = a
        rw [handleKey_space none_sortable, space]
        generalize a.gesture = gesture at rests
        cases rests <;> rfl
      · have cancels : (a.handleKey .escape now).2 = a.cancel :=
          congrArg Prod.snd (handleKey_escape none_sortable now)
        exact ⟨_, _, .idle, cancels.trans (cancel_of_rests rests)⟩
      · exact ⟨_, _, rests, congrArg Prod.snd (handleKey_of_across arrow waits.1 now)⟩

/-- While nothing but waiting happens a resting gesture stays at rest, and the items stay. -/
theorem run_waits (rests : a.gesture.Rests) {operations : List Operation}
    (waits : ∀ operation ∈ operations, operation.Waits a.config.orientation) :
    ∃ gesture samples, gesture.Rests ∧ a.run operations = { a with gesture, samples } := by
  induction operations generalizing a with
  | nil => exact ⟨_, _, rests, rfl⟩
  | cons operation rest ih =>
    obtain ⟨first, others⟩ := List.forall_mem_cons.mp waits
    obtain ⟨gesture, samples, rests', performed⟩ := perform_waits rests first
    obtain ⟨gesture', samples', rests'', runs⟩ :=
      ih (a := { a with gesture, samples }) rests' others
    refine ⟨gesture', samples', rests'', ?_⟩
    show (a.perform operation).run rest = _
    rw [performed, runs]

/-! ## Coming back -/

/-- From rest an arrow along the axis brings the focus to the remembered position. -/
theorem focused_of_rests (h : Within count a) (rests : a.gesture.Rests) {item : Item α}
    (remembers : a.remembered? = some item) {key : Key} {direction : Direction}
    (along : direction? a.config.orientation key = some direction) (now : Nat) :
    ∃ index, Plays (a.perform (.press key now)) .focused index item := by
  obtain ⟨focus, last, here⟩ := Option.bind_eq_some_iff.mp remembers
  have inside : focus < a.total := by
    rw [h.total]
    exact h.lastFocus focus last
  have steps : a.perform (.press key now) = a.arrow direction :=
    congrArg Prod.snd (handleKey_of_direction (by omega) along now)
  have enters : a.arrow direction =
      { a with lastFocus := some focus, gesture := .selecting focus } := by
    unfold arrow
    rw [last]
    dsimp only
    rw [Nat.mod_eq_of_lt inside]
    generalize a.gesture = gesture at rests
    cases rests <;> rfl
  rw [steps, enters]
  exact exists_plays here

/-- The next arrow along the axis brings the focus to the item that was let go. -/
theorem focus_returns (h : Within count a) {operation : Operation}
    (lets_go : Drops a operation ∨ GivesUp a operation) {item : Item α}
    (subject : a.subject? = some item) {between : List Operation}
    (waits : ∀ operation ∈ between, operation.Waits a.config.orientation) {key : Key}
    {direction : Direction} (along : direction? a.config.orientation key = some direction)
    (now : Nat) :
    let rested := (a.perform operation).run between
    rested.gesture.Rests ∧
      ∃ index, Plays (rested.perform (.press key now)) .focused index item := by
  intro rested
  have settings : (a.perform operation).config = a.config := perform_config a operation
  have within : Within count rested := (h.perform operation).run between
  obtain ⟨rests, remembers⟩ := remembers_of_lets_go h lets_go
  obtain ⟨gesture, samples, rests', rested_eq⟩ := run_waits rests (by rwa [settings])
  have rested_eq : rested = { a.perform operation with gesture, samples } := rested_eq
  have at_rest : rested.gesture.Rests := by rw [rested_eq]; exact rests'
  have remembers' : rested.remembered? = some item := by
    rw [rested_eq, ← subject, ← remembers]
    rfl
  have config : rested.config = a.config := by rw [rested_eq]; exact settings
  rw [← config] at along
  exact ⟨at_rest, focused_of_rests within at_rest remembers' along now⟩

end Arranger

end Picklist.Arrange
