import Picklist.Proofs.Arrange.Positions
import Picklist.Proofs.Arrange.Preview
import Picklist.Proofs.Arrange.Relocation
import Picklist.Proofs.Arrange.Throttling

/-!
# The dragged item lands next to the hovered one

Which half of an item the pointer is over decides on which side of it the dragged item is to land.
The landing place is counted without the dragged item, so it depends on the order of the two as
well. Taken out and put back there, the item stands directly before the hovered one or directly
behind it, on the side of the pointer, and all others keep their order.
-/

set_option autoImplicit false

namespace Picklist.Arrange

variable {β : Type}

/-! ## Beside another entry -/

/-- The place of an entry once the entry at place `source` is taken out. -/
def placeWithout (source place : Nat) : Nat :=
  if source < place then place - 1 else place

/-- One list is another with the entry at place `source` taken out and put directly before the entry
at place `candidate`, or directly behind it. -/
def PutBeside (source candidate : Nat) (before : Bool) (entries others : List β) : Prop :=
  ∃ early late dragged hovered,
    entries[source]? = some dragged ∧ entries[candidate]? = some hovered ∧
      entries.eraseIdx source = early ++ hovered :: late ∧
      early.length = placeWithout source candidate ∧
      others = early ++ (if before then [dragged, hovered] else [hovered, dragged]) ++ late

/-- Dropped on itself an item stays where it is. -/
theorem dropPosition_self (source : Nat) (before : Bool) :
    dropPosition source source before = source :=
  if_pos rfl

/-- The landing place is that of the candidate, or the next one. -/
theorem dropPosition_eq {source candidate : Nat} (other : candidate ≠ source) (before : Bool) :
    dropPosition source candidate before =
      placeWithout source candidate + if before then 0 else 1 := by
  unfold dropPosition placeWithout
  rw [if_neg other]
  dsimp only
  split <;> split <;> omega

/-- Without the source, the other entries are found at the places that count without it. -/
theorem getElem?_placeWithout {entries : List β} {source candidate : Nat}
    (other : candidate ≠ source) :
    (entries.eraseIdx source)[placeWithout source candidate]? = entries[candidate]? := by
  unfold placeWithout
  rw [List.getElem?_eraseIdx]
  split
  · rw [if_neg (by omega), Nat.sub_add_cancel (by omega)]
  · rw [if_pos (by omega)]

variable {source candidate target : Nat} {entries others : List β}

/-- What is put back stands between the others at its place. -/
theorem Relocated.eq_append {dragged : β} (h : Relocated source target entries others)
    (here : entries[source]? = some dragged) :
    others =
      (entries.eraseIdx source).take target ++
        dragged :: (entries.eraseIdx source).drop target := by
  obtain ⟨inside, entry⟩ := List.getElem?_eq_some_iff.mp (h.entry.trans here)
  have length : (others.take target).length = target := List.length_take_of_le (Nat.le_of_lt inside)
  rw [← h.rest, List.eraseIdx_eq_take_drop_succ, List.take_left' length, List.drop_left' length,
    ← entry, ← List.drop_eq_getElem_cons inside, List.take_append_drop]

/-- An entry that is relocated to the landing place stands beside the candidate. -/
theorem Relocated.putBeside {before : Bool}
    (h : Relocated source (dropPosition source candidate before) entries others)
    (other : candidate ≠ source) (hs : source < entries.length) (hc : candidate < entries.length) :
    PutBeside source candidate before entries others := by
  have moved := h.eq_append (List.getElem?_eq_getElem hs)
  have there : (entries.eraseIdx source)[placeWithout source candidate]? =
      some entries[candidate] := by
    rw [getElem?_placeWithout other, List.getElem?_eq_getElem hc]
  obtain ⟨inside, hovered⟩ := List.getElem?_eq_some_iff.mp there
  have around := List.drop_eq_getElem_cons inside
  rw [hovered] at around
  refine ⟨(entries.eraseIdx source).take (placeWithout source candidate),
    (entries.eraseIdx source).drop (placeWithout source candidate + 1), entries[source],
    entries[candidate], List.getElem?_eq_getElem hs, List.getElem?_eq_getElem hc, ?_,
    List.length_take_of_le (Nat.le_of_lt inside), ?_⟩
  · rw [← around, List.take_append_drop]
  · rw [moved, dropPosition_eq other]
    cases before with
    | true =>
      rw [if_pos rfl, if_pos rfl, Nat.add_zero, around, List.append_assoc]
      rfl
    | false =>
      rw [if_neg Bool.false_ne_true, if_neg Bool.false_ne_true, List.take_add_one, there,
        List.append_assoc, List.append_assoc]
      rfl

/-! ## Moves inside slots -/

/-- The entries that stand in slots, in the order of the slots. -/
def sequence (slots : List Nat) (entries : List β) : List β :=
  slots.filterMap (entries[·]?)

/-- Where no slot is empty, the sequence is what is read at the slots. -/
theorem map_some_sequence {slots : List Nat} (inside : ∀ slot ∈ slots, slot < entries.length) :
    (sequence slots entries).map some = readAt slots entries := by
  unfold sequence readAt
  induction slots with
  | nil => rfl
  | cons slot slots ih =>
    obtain ⟨first, rest⟩ := List.forall_mem_cons.mp inside
    rw [List.filterMap_cons_some (List.getElem?_eq_getElem first), List.map_cons, ih rest,
      List.map_cons, List.getElem?_eq_getElem first]

/-- There is an entry for each slot. -/
theorem length_sequence {slots : List Nat} (inside : ∀ slot ∈ slots, slot < entries.length) :
    (sequence slots entries).length = slots.length := by
  rw [← List.length_map some, map_some_sequence inside, length_readAt]

/-- A move to its own position changes nothing. -/
theorem moveWithinSlots_self (slots : List Nat) (source : Nat) (entries : List β) :
    moveWithinSlots slots source source entries = entries := by
  unfold moveWithinSlots
  rw [if_neg (Nat.lt_irrefl source), Nat.sub_self]
  exact ite_self entries

/-- A move relocates an entry of the sequence. -/
theorem relocated_sequence {slots : List Nat} (distinct : slots.Nodup)
    (inside : ∀ slot ∈ slots, slot < entries.length) (hs : source < slots.length)
    (ht : target < slots.length) :
    Relocated source target (sequence slots entries)
      (sequence slots (moveWithinSlots slots source target entries)) := by
  have inside' : ∀ slot ∈ slots, slot < (moveWithinSlots slots source target entries).length := by
    rw [(moveWithinSlots_perm slots source target entries).length_eq]
    exact inside
  have moved := relocated_moveWithinSlots distinct inside hs ht
  rw [← map_some_sequence inside, ← map_some_sequence inside'] at moved
  exact moved.of_map fun _ _ => Option.some.inj

/-- **The midpoint rule.** Whatever the increasing slots of a list are: the move from one slot to
the landing place of another stays inside the list and touches no entry outside the slots. In the
sequence of the entries in the slots it puts the entry directly before that of the other slot, or
directly behind it, and keeps the order of the others. Over itself an entry lands where it is, and
nothing moves. -/
theorem midpoint_rule_puts_beside {slots : List Nat} {entries : List β}
    (ascending : slots.Pairwise (· < ·)) (inside : ∀ slot ∈ slots, slot < entries.length)
    {source candidate : Nat} (hs : source < slots.length) (hc : candidate < slots.length)
    (before : Bool) :
    let target := dropPosition source candidate before
    let moved := moveWithinSlots slots source target entries
    target < slots.length ∧ Checked.dropPosition source candidate before = some target ∧
      Checked.moveWithinSlots slots source target entries = some moved ∧
      (∀ index, index ∉ slots → moved[index]? = entries[index]?) ∧
      (candidate ≠ source →
        PutBeside source candidate before (sequence slots entries) (sequence slots moved)) ∧
      (candidate = source → moved = entries) := by
  intro target moved
  have distinct : slots.Nodup := ascending.imp Nat.ne_of_lt
  have lands : target < slots.length := dropPosition_lt hs hc before
  refine ⟨lands, Checked.dropPosition_eq source candidate before,
    Checked.moveWithinSlots_eq inside source target, ?_, ?_, ?_⟩
  · intro index outside
    exact getElem?_moveWithinSlots_of_notMem outside source target entries
  · intro other
    have relocated := relocated_sequence distinct inside hs lands
    rw [← length_sequence inside] at hs hc
    exact relocated.putBeside other hs hc
  · rintro rfl
    show moveWithinSlots slots candidate (dropPosition candidate candidate before) entries = entries
    rw [dropPosition_self, moveWithinSlots_self]

/-- Over the upper half of the last entry, the first one lands in the middle. -/
theorem midpoint_rule_puts_beside_pinned :
    let moved := moveWithinSlots [0, 2, 3] 0 (dropPosition 0 2 true) ['a', 'P', 'b', 'c']
    moved = ['b', 'P', 'a', 'c'] ∧
      PutBeside 0 2 true ['a', 'b', 'c'] (sequence [0, 2, 3] moved) := by
  intro moved
  have beside : PutBeside 0 2 true (sequence [0, 2, 3] ['a', 'P', 'b', 'c'])
      (sequence [0, 2, 3] moved) :=
    (midpoint_rule_puts_beside (by decide) (by decide) (by decide) (by decide) true).2.2.2.2.1
      (by decide)
  exact ⟨rfl, beside⟩

/-! ## Drags -/

namespace Arranger

variable {α : Type} {a : Arranger α} {source drop candidate : Nat} {sample : Hover}

/-- The items that can be moved, in display order. -/
def displayedSortable (a : Arranger α) : List (Item α) :=
  (a.snapshot.displayItems.map Prod.snd).filter (·.sortable)

/-- While an item is dragged over another one, it is displayed beside that, on the side of the
pointer. -/
theorem putBeside_applyHover {count : Nat} (within : Within count a)
    (dragging : a.gesture = .dragging source drop)
    (found : positionOf a.items sample.candidate = some candidate) (other : candidate ≠ source) :
    PutBeside source candidate sample.before (a.items.filter (·.sortable))
      (a.applyHover sample).2.displayedSortable := by
  have total : sortableCount a.items = count := within.total
  have inside : source < sortableCount a.items := by
    rw [total]
    exact within.first_lt dragging rfl
  have below : candidate < sortableCount a.items := positionOf_lt found
  have lands := dropPosition_lt inside below sample.before
  have moved := relocated_sortable inside lands
  have gesture : (a.applyHover sample).2 =
      { a with gesture := .dragging source (dropPosition source candidate sample.before) } := by
    rw [applyHover_dragging dragging, landingOf?, found, Option.map_some, Option.getD_some,
      Nat.min_eq_left (Nat.le_sub_one_of_lt lands)]
  have shown : (a.applyHover sample).2.displayedSortable =
      (moveWithinSlots (slots a.items) source
        (dropPosition source candidate sample.before) a.items).filter (·.sortable) := by
    rw [displayedSortable, gesture, displayItems_of_moving rfl]
  rw [sortableCount, List.countP_eq_length_filter] at inside below
  rw [shown]
  exact moved.putBeside other inside below

end Arranger

end Picklist.Arrange
