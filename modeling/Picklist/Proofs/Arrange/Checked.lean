import Picklist.Proofs.Arrange.Run
import Picklist.Proofs.Arrange.Slots

/-!
# Operations that check their bounds

In the arithmetic of natural numbers a difference stops at zero and a remainder by zero is a number,
and an exchange of entries that are not there changes nothing. Here the operations of an arranged
list are told once more in a form that checks its bounds: a difference below zero, a remainder by
zero, a slot that is not there and an exchange outside the list end the operation without a result,
and nothing clamps the position where a dragged item would land.

Differences, slots and exchanges are within their bounds whatever the arguments are, because they
stand behind guards. The clamp is another matter: that it is not needed depends on where the dragged
item comes from.
-/

set_option autoImplicit false

namespace Picklist.Arrange.Checked

variable {α β : Type}

/-! ## Arithmetic -/

/-- The difference, if it is not below zero. -/
def difference (a b : Nat) : Option Nat :=
  if b ≤ a then some (a - b) else none

/-- The remainder, if the divisor is not zero. -/
def remainder (a b : Nat) : Option Nat :=
  if b = 0 then none else some (a % b)

/-- The checked difference succeeds where nothing is taken from less. -/
theorem difference_eq {a b : Nat} (within : b ≤ a) : difference a b = some (a - b) :=
  if_pos within

/-- The checked remainder succeeds where the divisor is positive. -/
theorem remainder_eq {a b : Nat} (within : 0 < b) : remainder a b = some (a % b) :=
  if_neg (by omega)

/-- One step from `index` inside a cycle of `length` places. -/
def stepWrapping (direction : Direction) (index length : Nat) : Option (Option Nat) :=
  if length = 0 then some none
  else do
    let index ← remainder index length
    let next : Option Nat := match direction with
      | .forward => some (index + 1)
      | .backward => difference (index + length) 1
    return some (← remainder (← next) length)

/-- The checked step always succeeds: a list without places is left before it is divided by. -/
theorem stepWrapping_eq (direction : Direction) (index length : Nat) :
    stepWrapping direction index length = some (direction.stepWrapping index length) := by
  unfold stepWrapping Direction.stepWrapping
  by_cases empty : length = 0
  · rw [if_pos empty, if_pos empty]
  · have places : 0 < length := by omega
    rw [if_neg empty, if_neg empty, remainder_eq places]
    cases direction with
    | forward => simp [remainder_eq places]
    | backward =>
      have below : 1 ≤ index % length + length := by omega
      simp [difference_eq below, remainder_eq places]

/-- The position at which the item from position `source` lands. -/
def dropPosition (source candidate : Nat) (before : Bool) : Option Nat :=
  if candidate = source then some source
  else
    let gap := if before then candidate else candidate + 1
    if source < candidate then difference gap 1 else some gap

/-- The checked drop position always succeeds: one is taken away behind the source only. -/
theorem dropPosition_eq (source candidate : Nat) (before : Bool) :
    dropPosition source candidate before = some (Arrange.dropPosition source candidate before) := by
  unfold dropPosition Arrange.dropPosition
  by_cases same : candidate = source
  · rw [if_pos same, if_pos same]
  · rw [if_neg same, if_neg same]
    by_cases behind : source < candidate
    · have gap : 1 ≤ if before then candidate else candidate + 1 := by split <;> omega
      simp only [if_pos behind, difference_eq gap]
    · simp only [if_neg behind]

/-! ## Moves -/

/-- Exchanges two entries that are there. -/
def exchange (entries : List β) (i j : Nat) : Option (List β) :=
  if i < entries.length ∧ j < entries.length then some (Arrange.exchange entries i j) else none

/-- Exchanges the entries of a slot and the next one. -/
def exchangeSlots (slots : List Nat) (entries : List β) (position : Nat) : Option (List β) := do
  exchange entries (← slots[position]?) (← slots[position + 1]?)

/-- Moves the entry at slot `source` to slot `target`. -/
def moveWithinSlots (slots : List Nat) (source target : Nat) (entries : List β) :
    Option (List β) :=
  if source < slots.length ∧ target < slots.length then
    if source < target then
      (List.range' source (target - source)).foldlM (exchangeSlots slots) entries
    else
      (List.range' target (source - target)).reverse.foldlM (exchangeSlots slots) entries
  else some entries

/-- The checked exchange succeeds between two slots that exist. -/
theorem exchangeSlots_eq {slots : List Nat} {entries : List β} {position : Nat}
    (inside : ∀ slot ∈ slots, slot < entries.length) (within : position + 1 < slots.length) :
    exchangeSlots slots entries position = some (Arrange.exchangeSlots slots entries position) := by
  have first : position < slots.length := by omega
  have bounds : slots[position] < entries.length ∧ slots[position + 1] < entries.length :=
    ⟨inside _ (List.getElem_mem first), inside _ (List.getElem_mem within)⟩
  unfold exchangeSlots Arrange.exchangeSlots
  rw [List.getElem?_eq_getElem first, List.getElem?_eq_getElem within]
  exact if_pos bounds

/-- An exchange keeps the number of entries. -/
theorem length_exchangeSlots (slots : List Nat) (entries : List β) (position : Nat) :
    (Arrange.exchangeSlots slots entries position).length = entries.length := by
  rw [exchangeSlots_eq_swapAll]
  exact (swapAll_perm _ entries).length_eq

/-- A checked row of exchanges succeeds as long as each is between slots that exist. -/
theorem foldlM_exchangeSlots {slots positions : List Nat} {entries : List β}
    (inside : ∀ slot ∈ slots, slot < entries.length)
    (within : ∀ position ∈ positions, position + 1 < slots.length) :
    positions.foldlM (exchangeSlots slots) entries =
      some (positions.foldl (Arrange.exchangeSlots slots) entries) := by
  induction positions generalizing entries with
  | nil => rfl
  | cons position positions ih =>
    obtain ⟨first, rest⟩ := List.forall_mem_cons.mp within
    rw [List.foldlM_cons, exchangeSlots_eq inside first, List.foldl_cons]
    apply ih _ rest
    rw [length_exchangeSlots]
    exact inside

/-- A move stays inside a list that has all the slots. -/
theorem moveWithinSlots_eq {slots : List Nat} {entries : List β}
    (inside : ∀ slot ∈ slots, slot < entries.length) (source target : Nat) :
    moveWithinSlots slots source target entries =
      some (Arrange.moveWithinSlots slots source target entries) := by
  unfold moveWithinSlots Arrange.moveWithinSlots
  split
  · split
    · apply foldlM_exchangeSlots inside
      intro position between
      rw [List.mem_range'_1] at between
      omega
    · apply foldlM_exchangeSlots inside
      intro position between
      rw [List.mem_reverse, List.mem_range'_1] at between
      omega
  · rfl

/-! ## Operations -/

/-- Takes over the drop target of a pointer sample, without a clamp. -/
def applyHover (a : Arranger α) (sample : Hover) : Option (Bool × Arranger α) :=
  match a.gesture, positionOf a.items sample.candidate with
  | .dragging source drop, some candidate =>
    (dropPosition source candidate sample.before).map fun next =>
      if next = drop then (false, a) else (true, { a with gesture := .dragging source next })
  | _, _ => some (false, a)

/-- Feeds a pointer sample to the drag in progress. -/
def hover (a : Arranger α) (sample : Hover) (now : Nat) : Option (Bool × Arranger α) :=
  match a.gesture with
  | .dragging _ _ =>
    match a.samples.offer sample now with
    | (some sample, samples) => applyHover { a with samples } sample
    | (none, samples) => some (false, { a with samples })
  | _ => some (false, a)

/-- Lets time pass. -/
def tick (a : Arranger α) (now : Nat) : Option (Bool × Arranger α) :=
  let released : Option (Bool × Arranger α) :=
    match a.samples.poll now with
    | (some sample, samples) => applyHover { a with samples } sample
    | (none, samples) => some (false, { a with samples })
  released.map fun (moved, a) =>
    let (settled, a) := a.finishSettling now
    (moved || settled, a)

/-- Applies the held sample, if there is one. -/
def flushSample (a : Arranger α) : Option (Arranger α) :=
  match a.samples.flush with
  | (some sample, samples) => (applyHover { a with samples } sample).map Prod.snd
  | (none, samples) => some { a with samples }

/-- Drops the moving item. -/
def commit (a : Arranger α) (now : Nat) : Option (Option (List α) × Arranger α) :=
  (flushSample a).bind fun a =>
    match a.gesture.move? with
    | none => some (none, a)
    | some (source, drop) =>
      let landed : Arranger α :=
        { a with gesture := .settling drop (now + a.config.settleDelay), lastFocus := some drop }
      if source = drop then
        some (none, { landed with announcement := some (.returned source a.total) })
      else
        (moveWithinSlots (slots a.items) source drop a.items).map fun items =>
          let moved : Arranger α :=
            { landed with items, announcement := some (.dropped drop a.total) }
          (some moved.values, moved)

/-- The place where a walk without a position enters a list of `length` places. -/
def entry (direction : Direction) (length : Nat) : Option Nat :=
  match direction with
  | .forward => some 0
  | .backward => difference length 1

/-- The focus appears where it was last, or at the end that the step comes from. -/
def enter (a : Arranger α) (direction : Direction) : Option (Arranger α) :=
  let focus : Option Nat :=
    match a.lastFocus with
    | some focus => remainder focus a.total
    | none => entry direction a.total
  focus.map fun focus => { a with lastFocus := some focus, gesture := .selecting focus }

/-- One step of the focus or of the landing place. -/
def arrow (a : Arranger α) (direction : Direction) : Option (Arranger α) :=
  match a.gesture with
  | .idle => enter a direction
  | .settling _ _ => enter a direction
  | .selecting focus =>
    (stepWrapping direction focus a.total).map fun
      | some focus => { a with lastFocus := some focus, gesture := .selecting focus }
      | none => a
  | .grabbed source drop =>
    (stepWrapping direction drop a.total).map fun
      | some drop =>
        { a with gesture := .grabbed source drop, announcement := some (.moved drop a.total) }
      | none => a
  | .dragging _ _ => some a

/-- Applies a key. Only the arrow keys and the dropping of an item count. -/
def handleKey (a : Arranger α) (key : Key) (now : Nat) : Option (Option (List α) × Arranger α) :=
  if a.total = 0 then some (none, a)
  else
    match key with
    | .escape => some (none, a.cancel)
    | .space =>
      match a.gesture with
      | .grabbed _ _ => commit a now
      | _ => some (a.space now)
    | key =>
      match Arranger.direction? a.config.orientation key with
      | some direction => (arrow a direction).map fun a => (none, a)
      | none => some (none, a)

/-- The arranged list after an operation, if the operation stays within all bounds. -/
def perform (a : Arranger α) : Operation → Option (Arranger α)
  | .beginDrag index => some (a.beginDrag index).2
  | .updateDropTarget pointer candidate bounds now =>
    (hover a ⟨candidate, a.config.orientation.isBeforeMidpoint pointer bounds⟩ now).map Prod.snd
  | .tick now => (tick a now).map Prod.snd
  | .commit now => (commit a now).map Prod.snd
  | .cancel => some a.cancel
  | .press key now => (handleKey a key now).map Prod.snd

/-- The arranged list after a run all of whose operations stay within all bounds. -/
def run (a : Arranger α) (operations : List Operation) : Option (Arranger α) :=
  operations.foldlM perform a

/-- The list indices in display order. -/
def displayOrder (a : Arranger α) : Option (List Nat) :=
  let order := List.range a.items.length
  match a.gesture.move? with
  | some (source, drop) => moveWithinSlots (slots a.items) source drop order
  | none => some order

end Picklist.Arrange.Checked
