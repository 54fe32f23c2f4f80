import Picklist.Proofs.Arrange.Carrying
import Picklist.Proofs.Arrange.Roles

/-!
# The item in hand

A move begins when the pointer presses an item or the key grabs the one in focus. Whatever happens
while it goes on, the item that moves is the one that was taken: nothing but another press changes
the source of a move, and the items change only when it ends. On display the item stands in the slot
where it would land.
-/

set_option autoImplicit false

namespace Picklist.Arrange

variable {α : Type}

/-- The operations that take an item in hand. -/
inductive Takes (a : Arranger α) : Operation → Item α → Prop where
  | pressed (index : Nat) (item : Item α) (there : a.items[index]? = some item)
    (begins : (a.beginDrag index).1 = true) : Takes a (.beginDrag index) item
  | grabbed (now index : Nat) (item : Item α) (focused : Plays a .focused index item) :
    Takes a (.press .space now) item

/-- After the operations the item is in hand: it was taken, and since then the move has gone on and
no item was taken. -/
inductive InHand (start : Arranger α) : List Operation → Item α → Prop where
  | taken {operations : List Operation} {operation : Operation} {item : Item α}
    (takes : Takes (start.run operations) operation item) :
    InHand start (operations ++ [operation]) item
  | kept {operations : List Operation} {operation : Operation} {item : Item α}
    (before : InHand start operations item)
    (others : ∀ other, ¬ Takes (start.run operations) operation other)
    (moving : ∃ source drop,
      (start.run (operations ++ [operation])).gesture.move? = some (source, drop)) :
    InHand start (operations ++ [operation]) item

namespace Arranger

variable {a b : Arranger α} {source drop : Nat}

/-! ## One operation -/

/-- A move goes on from `a` to `b` with the same item by an operation that takes none. -/
structure KeepsHold (a : Arranger α) (operation : Operation) (b : Arranger α) : Prop where
  moving : ∃ source drop, a.gesture.move? = some (source, drop)
  others : ∀ item, ¬ Takes a operation item
  subject : b.subject? = a.subject?

/-- The same items and the same position make the same subject. -/
theorem subject?_congr (items : b.items = a.items)
    (position : b.gesture.subject? = a.gesture.subject?) : b.subject? = a.subject? := by
  unfold subject?
  rw [items, position]

/-- While an item is moved, only a press of another one takes an item: the key finds no focus. -/
theorem not_takes (moving : a.gesture.move? = some (source, drop)) {operation : Operation}
    (refused : ∀ index, operation = .beginDrag index → (a.beginDrag index).1 = false)
    (item : Item α) : ¬ Takes a operation item := by
  rintro (⟨index, _, -, begins⟩ | ⟨now, index, _, focused⟩)
  · rw [refused index rfl] at begins
    cases begins
  · have part := (focused.subject? ⟨Role.noConfusion, Role.noConfusion⟩).2
    rw [(Gesture.of_move? moving).2] at part
    cases part

/-- A hold is kept where items and position in hand stay as they are. -/
theorem keepsHold_of_same {operation : Operation} (moving : a.gesture.move? = some (source, drop))
    (refused : ∀ index, operation = .beginDrag index → (a.beginDrag index).1 = false)
    (items : b.items = a.items) (position : b.gesture.subject? = a.gesture.subject?) :
    KeepsHold a operation b :=
  ⟨⟨source, drop, moving⟩, not_takes moving refused, subject?_congr items position⟩

/-- A drag that goes on keeps its hold if the items stay. -/
theorem GoesOn.keepsHold {operation : Operation} (h : GoesOn a source operation b)
    (dragging : a.gesture = .dragging source drop) (items : b.items = a.items) :
    KeepsHold a operation b := by
  obtain ⟨next, dragging'⟩ := h.dragging
  refine keepsHold_of_same (by rw [dragging]; rfl) h.refused items ?_
  rw [dragging, dragging']
  rfl

/-- A hover without a drag does nothing. -/
theorem hover_of_undragged (still : ∀ source drop, a.gesture ≠ .dragging source drop)
    (sample : Hover) (now : Nat) : a.hover sample now = (false, a) := by
  unfold hover
  split
  · rename_i dragging
    exact absurd dragging (still _ _)
  · rfl

/-- A press takes the item that it is on. -/
theorem takes_beginDrag {index : Nat} (begins : (a.beginDrag index).1 = true) :
    ∃ item, Takes a (.beginDrag index) item ∧ (a.beginDrag index).2.subject? = some item := by
  cases found : positionOf a.items index with
  | none =>
    rw [beginDrag_of_pinned found] at begins
    cases begins
  | some position =>
    obtain ⟨item, here⟩ := exists_itemAt? (positionOf_lt found)
    obtain ⟨other, found', there⟩ := itemAt?_eq_some_iff.mp here
    obtain rfl := positionOf_injective found found'
    refine ⟨item, .pressed index item there begins, ?_⟩
    rw [beginDrag_of_sortable found]
    exact here

/-- The key takes the item in focus. -/
theorem takes_space {count : Nat} (h : Within count a) {focus : Nat}
    (selecting : a.gesture = .selecting focus) (now : Nat) :
    ∃ item, Takes a (.press .space now) item ∧ (a.space now).2.subject? = some item := by
  have busy : a.gesture ≠ .idle := by
    rw [selecting]
    exact Gesture.noConfusion
  obtain ⟨item, subject⟩ := h.exists_subject busy
  obtain ⟨index, plays⟩ := exists_plays subject
  rw [selecting] at plays
  refine ⟨item, .grabbed now index item plays, ?_⟩
  rw [← subject]
  unfold space
  rw [selecting]
  exact subject?_congr rfl (by rw [selecting]; rfl)

/-- An arrow begins no move, and keeps the source of one. -/
theorem arrow_moving (direction : Direction)
    (moving : (a.arrow direction).gesture.move? = some (source, drop)) :
    (∃ source drop, a.gesture.move? = some (source, drop)) ∧
      (a.arrow direction).gesture.subject? = a.gesture.subject? := by
  unfold arrow at moving ⊢
  dsimp only at moving ⊢
  cases gesture : a.gesture with
  | idle | settling =>
    rw [gesture] at moving
    cases moving
  | selecting focus =>
    rw [gesture] at moving
    dsimp only at moving
    split at moving
    · cases moving
    · rw [gesture] at moving
      cases moving
  | grabbed source drop =>
    refine ⟨⟨source, drop, rfl⟩, ?_⟩
    dsimp only
    split
    · rfl
    · rw [gesture]
  | dragging source drop => exact ⟨⟨source, drop, rfl⟩, congrArg Gesture.subject? gesture⟩

/-- If an item is moved after a key, the key has taken it or it was moved before. -/
theorem handleKey_moving {count : Nat} (h : Within count a) (key : Key) (now : Nat)
    (moving : (a.handleKey key now).2.gesture.move? = some (source, drop)) :
    (∃ item, Takes a (.press key now) item ∧ (a.handleKey key now).2.subject? = some item) ∨
      KeepsHold a (.press key now) (a.handleKey key now).2 := by
  have refused (index : Nat) :
      Operation.press key now = .beginDrag index → (a.beginDrag index).1 = false :=
    Operation.noConfusion
  by_cases none_sortable : a.total = 0
  · rw [handleKey_of_unsortable none_sortable] at moving ⊢
    exact .inr (keepsHold_of_same moving refused rfl rfl)
  · obtain rfl | rfl | arrow := key.space_or_escape_or_isArrow
    · rw [handleKey_space none_sortable] at moving ⊢
      cases gesture : a.gesture with
      | selecting focus => exact .inl (takes_space h gesture now)
      | grabbed =>
        have committed : a.space now = a.commit now := by rw [space, gesture]
        rw [committed, (a.commit_rests now).2] at moving
        cases moving
      | idle | dragging | settling =>
        have same : a.space now = (none, a) := by rw [space, gesture]
        rw [same] at moving ⊢
        exact .inr (keepsHold_of_same moving refused rfl rfl)
    · rw [handleKey_escape none_sortable] at moving
      cases moving
    · cases along : direction? a.config.orientation key with
      | none =>
        rw [handleKey_of_across arrow along] at moving ⊢
        exact .inr (keepsHold_of_same moving refused rfl rfl)
      | some direction =>
        rw [handleKey_of_direction none_sortable along] at moving ⊢
        obtain ⟨⟨source, drop, before⟩, position⟩ := arrow_moving direction moving
        exact .inr (keepsHold_of_same before refused (sameList_arrow a direction).items position)

/-- If an item is moved after an operation, the operation has taken it or it was moved before. -/
theorem perform_moving {count : Nat} (h : Within count a) (operation : Operation)
    (moving : (a.perform operation).gesture.move? = some (source, drop)) :
    (∃ item, Takes a operation item ∧ (a.perform operation).subject? = some item) ∨
      KeepsHold a operation (a.perform operation) := by
  cases operation with
  | beginDrag index =>
    cases begins : (a.beginDrag index).1 with
    | true => exact .inl (takes_beginDrag begins)
    | false =>
      have same : a.perform (.beginDrag index) = a := by
        cases found : positionOf a.items index with
        | none => exact congrArg Prod.snd (beginDrag_of_pinned found)
        | some position =>
          rw [beginDrag_of_sortable found] at begins
          cases begins
      rw [same] at moving ⊢
      refine .inr (keepsHold_of_same moving ?_ rfl rfl)
      rintro _ ⟨⟩
      exact begins
  | updateDropTarget pointer candidate bounds now =>
    right
    by_cases dragging : ∃ source drop, a.gesture = .dragging source drop
    · obtain ⟨source, drop, dragging⟩ := dragging
      exact (goesOn_hover dragging pointer candidate bounds now).keepsHold dragging
        (sameList_hover a _ now).items
    · have same : a.perform (.updateDropTarget pointer candidate bounds now) = a :=
        congrArg Prod.snd (hover_of_undragged (by simpa using dragging) _ now)
      rw [same] at moving ⊢
      exact keepsHold_of_same moving (fun _ => Operation.noConfusion) rfl rfl
  | tick now =>
    right
    have items : (a.tick now).2.items = a.items := (sameList_tick a now).items
    by_cases dragging : ∃ source drop, a.gesture = .dragging source drop
    · obtain ⟨source, drop, dragging⟩ := dragging
      exact (goesOn_tick dragging now).keepsHold dragging items
    · obtain ⟨samples, kept | ⟨-, settled⟩⟩ := tick_of_undragged (by simpa using dragging) now
      · have same : a.perform (.tick now) = { a with samples } := kept
        rw [same] at moving ⊢
        exact keepsHold_of_same moving (fun _ => Operation.noConfusion) rfl rfl
      · have rests : a.perform (.tick now) = { a with samples, gesture := .idle } := settled
        rw [rests] at moving
        cases moving
  | commit now =>
    have still : (a.perform (.commit now)).gesture.move? = none := (a.commit_rests now).2
    rw [still] at moving
    cases moving
  | cancel => cases moving
  | press key now => exact handleKey_moving h key now moving

/-! ## Runs -/

/-- While a move is in progress after a run, the item in hand is the subject. -/
theorem inHand_of_moving {start : Arranger α} {count : Nat} (h : Within count start)
    (still : start.gesture.move? = none) (operations : List Operation)
    (moving : (start.run operations).gesture.move? = some (source, drop)) :
    ∃ item, InHand start operations item ∧ (start.run operations).subject? = some item := by
  -- whether an item is in hand is told by the end of the run
  induction operations using List.reverseRecOn generalizing source drop with
  | nil =>
    have moving : start.gesture.move? = some (source, drop) := moving
    rw [still] at moving
    cases moving
  | append_singleton operations operation ih =>
    have goes : ∃ source drop,
        (start.run (operations ++ [operation])).gesture.move? = some (source, drop) :=
      ⟨source, drop, moving⟩
    rw [run_concat] at moving ⊢
    obtain ⟨item, takes, subject⟩ | keeps := perform_moving (h.run operations) operation moving
    · exact ⟨item, .taken takes, subject⟩
    · obtain ⟨_, _, before⟩ := keeps.moving
      obtain ⟨item, inHand, subject⟩ := ih before
      exact ⟨item, .kept inHand keeps.others goes, keeps.subject.trans subject⟩

end Arranger

/-! ## On display -/

/-- A move takes the entry of the one slot to the other. -/
theorem getElem?_moveWithinSlots {β : Type} {slots : List Nat} {entries : List β}
    (distinct : slots.Nodup) (inside : ∀ slot ∈ slots, slot < entries.length)
    {source target i j : Nat} (from_slot : slots[source]? = some i)
    (to_slot : slots[target]? = some j) :
    (moveWithinSlots slots source target entries)[j]? = entries[i]? := by
  obtain ⟨hs, rfl⟩ := List.getElem?_eq_some_iff.mp from_slot
  obtain ⟨ht, rfl⟩ := List.getElem?_eq_some_iff.mp to_slot
  have entry := (relocated_moveWithinSlots distinct inside hs ht).entry
  simpa [readAt, hs, ht] using entry

namespace Arranger

variable {a : Arranger α} {source drop : Nat}

/-- The item displayed at a place is the one whose index the display order has there. -/
theorem displayItems_getElem? (a : Arranger α) (place : Nat) :
    a.snapshot.displayItems[place]? =
      a.displayOrder[place]?.bind fun index => a.items[index]?.map (index, ·) := by
  apply getElem?_filterMap_getElem?
  intro index shown
  exact List.mem_range.mp (a.displayOrder_perm.mem_iff.mp shown)

/-- The item that moves is shown in the slot where it would land. -/
theorem displayed_of_moving {count : Nat} (h : Within count a)
    (moving : a.gesture.move? = some (source, drop)) {index : Nat} {item : Item α}
    (plays : Plays a .moving index item) :
    ∃ slot, (slots a.items)[drop]? = some slot ∧ a.snapshot.order[slot]? = some index ∧
      a.snapshot.displayItems[slot]? = some (index, item) := by
  have inside (slot : Nat) (mem : slot ∈ slots a.items) :
      slot < (List.range a.items.length).length := by
    rw [List.length_range]
    exact lt_length_of_mem_slots mem
  have lands : drop < (slots a.items).length := by
    rw [length_slots, ← total, h.total]
    exact h.gesture drop (Gesture.mem_positions_of_move? moving).2
  have takesPart : (a.snapshot.role index).TakesPart := by
    rw [plays.role]
    exact ⟨Role.noConfusion, Role.noConfusion⟩
  obtain ⟨position, about, found⟩ := takesPart_iff.mp takesPart
  obtain rfl : source = position := by
    rw [(Gesture.of_move? moving).1] at about
    exact Option.some.inj about
  have to_slot := List.getElem?_eq_getElem lands
  have shown : a.displayOrder[(slots a.items)[drop]]? = some index := by
    have here : index < a.items.length := (List.getElem?_eq_some_iff.mp plays.there).1
    rw [displayOrder, moving]
    dsimp only
    rw [getElem?_moveWithinSlots (slots_nodup a.items) inside (positionOf_eq_some_iff.mp found)
      to_slot]
    exact List.getElem?_range here
  refine ⟨_, to_slot, shown, ?_⟩
  rw [displayItems_getElem?, shown, Option.bind_some, plays.there]
  rfl

end Arranger

end Picklist.Arrange
