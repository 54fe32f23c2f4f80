import Mathlib.Data.List.InsertIdx
import Picklist.Proofs.Arrange.Midpoint

/-!
# Moving out and back

A move takes an entry out of the sequence of the slots and inserts it at the target. The move back
makes the same swaps in the opposite order, and a swap undoes itself, so it leads back to where the
move began, whatever the slots are.
-/

set_option autoImplicit false

namespace Picklist.Arrange

variable {β γ : Type}

/-! ## Swaps backwards -/

/-- Swapping two entries twice changes nothing. -/
theorem swap_swap (entries : List β) (i j : Nat) : (entries.swap i j).swap i j = entries := by
  by_cases hi : i < entries.length
  · by_cases hj : j < entries.length
    · apply List.ext_getElem?
      intro k
      have hi' : i < (entries.swap i j).length := by simpa using hi
      have hj' : j < (entries.swap i j).length := by simpa using hj
      by_cases first : k = i
      · subst first
        rw [getElem?_swap_left hi' hj', getElem?_swap_right hi hj]
      · by_cases second : k = j
        · subst second
          rw [getElem?_swap_right hi' hj', getElem?_swap_left hi hj]
        · rw [getElem?_swap_of_ne first second, getElem?_swap_of_ne first second]
    · have beyond := Nat.le_of_not_lt hj
      rw [List.swap_eq_of_ge_right beyond, List.swap_eq_of_ge_right beyond]
  · have beyond := Nat.le_of_not_lt hi
    rw [List.swap_eq_of_ge_left beyond, List.swap_eq_of_ge_left beyond]

/-- Two rows of swaps, one after the other, are one row. -/
theorem swapAll_append (pairs more : List (Nat × Nat)) (entries : List β) :
    swapAll (pairs ++ more) entries = swapAll more (swapAll pairs entries) :=
  List.foldl_append

/-- Swaps are undone by the same swaps in the opposite order. -/
theorem swapAll_reverse (pairs : List (Nat × Nat)) (entries : List β) :
    swapAll pairs.reverse (swapAll pairs entries) = entries := by
  induction pairs generalizing entries with
  | nil => rfl
  | cons pair pairs ih =>
    rw [List.reverse_cons, swapAll_append, swapAll_cons pair pairs entries, ih]
    exact swap_swap entries pair.1 pair.2

/-- The swap of two neighbouring slots is one swap, so it is its own reverse. -/
theorem reverse_neighbours (slots : List Nat) (position : Nat) :
    (neighbours slots position).reverse = neighbours slots position := by
  unfold neighbours
  split <;> rfl

/-- The swaps of a run of positions in the opposite order are those of the reversed run. -/
theorem reverse_flatMap_neighbours (slots positions : List Nat) :
    (positions.flatMap (neighbours slots)).reverse =
      positions.reverse.flatMap (neighbours slots) := by
  rw [List.reverse_flatMap]
  congr 1
  funext position
  exact reverse_neighbours slots position

/-- The way back passes the same pairs of slots in the opposite order. -/
theorem reverse_movePairs (slots : List Nat) (source target : Nat) :
    (movePairs slots source target).reverse = movePairs slots target source := by
  unfold movePairs
  by_cases both : source < slots.length ∧ target < slots.length
  · rw [if_pos both, if_pos both.symm]
    rcases Nat.lt_trichotomy source target with forward | rfl | backward
    · rw [if_pos forward, if_neg (Nat.lt_asymm forward), reverse_flatMap_neighbours]
    · simp
    · rw [if_pos backward, if_neg (Nat.lt_asymm backward), reverse_flatMap_neighbours,
        List.reverse_reverse]
  · rw [if_neg both, if_neg fun swapped => both swapped.symm, List.reverse_nil]

/-- Moving an entry and moving it back changes nothing. -/
theorem moveWithinSlots_moveWithinSlots (slots : List Nat) (source target : Nat)
    (entries : List β) :
    moveWithinSlots slots target source (moveWithinSlots slots source target entries) =
      entries := by
  rw [moveWithinSlots_eq_swapAll, moveWithinSlots_eq_swapAll, ← reverse_movePairs]
  exact swapAll_reverse _ entries

/-! ## Out and in -/

/-- To relocate an entry is to take it out and to insert it at its new place. -/
theorem Relocated.eq_insertIdx {source target : Nat} {entries others : List β}
    (h : Relocated source target entries others) {entry : β}
    (there : entries[source]? = some entry) :
    others = (entries.eraseIdx source).insertIdx target entry := by
  obtain ⟨bound, same⟩ := List.getElem?_eq_some_iff.mp (h.entry.trans there)
  rw [← h.rest, ← same, List.insertIdx_eraseIdx_getElem bound]

/-- A move from or to a position without a slot changes nothing. -/
theorem moveWithinSlots_of_outside {slots : List Nat} {source target : Nat}
    (outside : ¬ (source < slots.length ∧ target < slots.length)) (entries : List β) :
    moveWithinSlots slots source target entries = entries :=
  if_neg outside

/-- **A move is remove and insert.** Whatever the increasing slots of a list are: a move never
leaves the list. In the sequence of the entries in the slots it takes out the one at `source` and
inserts it at `target`. Entries outside the slots stay, the move back leads back to the list, and
functions on the entries commute with the move. Without a slot for either end nothing moves. -/
theorem move_is_remove_and_insert {slots : List Nat} {entries : List β}
    (ascending : slots.Pairwise (· < ·)) (inside : ∀ slot ∈ slots, slot < entries.length)
    (source target : Nat) (f : β → γ) :
    let moved := moveWithinSlots slots source target entries
    Checked.moveWithinSlots slots source target entries = some moved ∧
      (source < slots.length → target < slots.length →
        ∃ entry, (sequence slots entries)[source]? = some entry ∧
          sequence slots moved =
            ((sequence slots entries).eraseIdx source).insertIdx target entry) ∧
      (∀ place ∉ slots, moved[place]? = entries[place]?) ∧
      moveWithinSlots slots target source moved = entries ∧
      moveWithinSlots slots source target (entries.map f) = moved.map f ∧
      (¬ (source < slots.length ∧ target < slots.length) → moved = entries) := by
  intro moved
  refine ⟨Checked.moveWithinSlots_eq inside source target, ?_, ?_,
    moveWithinSlots_moveWithinSlots slots source target entries,
    moveWithinSlots_map f slots source target entries,
    fun outside => moveWithinSlots_of_outside outside entries⟩
  · intro hs ht
    have there : source < (sequence slots entries).length := by rwa [length_sequence inside]
    have taken := List.getElem?_eq_getElem there
    have distinct : slots.Nodup := ascending.imp Nat.ne_of_lt
    exact ⟨_, taken, (relocated_sequence distinct inside hs ht).eq_insertIdx taken⟩
  · intro place outside
    exact getElem?_moveWithinSlots_of_notMem outside source target entries

/-- The first of three entries goes last, past a gap between the slots. -/
theorem move_is_remove_and_insert_pinned :
    let moved := moveWithinSlots [0, 2, 3] 0 2 ['a', 'P', 'b', 'c']
    moved = ['b', 'P', 'c', 'a'] ∧ sequence [0, 2, 3] moved = ['b', 'c', 'a'] ∧
      moved[1]? = some 'P' ∧ moveWithinSlots [0, 2, 3] 2 0 moved = ['a', 'P', 'b', 'c'] := by
  intro moved
  have ascending : [0, 2, 3].Pairwise (· < ·) := by decide
  have inside : ∀ slot ∈ [0, 2, 3], slot < ['a', 'P', 'b', 'c'].length := by decide
  obtain ⟨-, exact_sequence, fixed, back, -⟩ :=
    move_is_remove_and_insert ascending inside 0 2 Char.toNat
  obtain ⟨entry, taken, inserted⟩ := exact_sequence (by decide) (by decide)
  obtain rfl : 'a' = entry := Option.some.inj taken
  exact ⟨by decide, inserted, fixed 1 (by decide), back⟩

end Picklist.Arrange
