import Mathlib.Data.List.Nodup
import Picklist.Proofs.Arrange.Slots

/-!
# A move takes an entry out and puts it back

A move inside slots exchanges neighbouring slots on the way from the source to the target. What is
read at the slots is then the old reading with the entry from the source taken out and put back at
the target: every exchange carries the entry one place on and leaves the others in order.

The sortable items of a list are what is read at its slots, so a move relocates one of them among
the others.
-/

set_option autoImplicit false

namespace Picklist.Arrange

variable {β γ : Type}

/-- One list is another with the entry at place `source` taken out and put back at `target`. -/
structure Relocated (source target : Nat) (entries others : List β) : Prop where
  entry : others[target]? = entries[source]?
  rest : others.eraseIdx target = entries.eraseIdx source

namespace Relocated

variable {i j k : Nat} {entries others third : List β}

/-- Every list is itself with an entry moved to its own place. -/
theorem refl (i : Nat) (entries : List β) : Relocated i i entries entries := ⟨rfl, rfl⟩

/-- Two moves of one entry are one move. -/
theorem trans (h : Relocated i j entries others) (more : Relocated j k others third) :
    Relocated i k entries third :=
  ⟨more.entry.trans h.entry, more.rest.trans h.rest⟩

/-- An entry in front makes no difference to a move behind it. -/
theorem cons (h : Relocated i j entries others) (b : β) :
    Relocated (i + 1) (j + 1) (b :: entries) (b :: others) where
  entry := by simpa using h.entry
  rest := by simpa using h.rest

/-- A move of images is a move of the entries, if different entries have different images. -/
theorem of_map {f : β → γ} (injective : Function.Injective f)
    (h : Relocated i j (entries.map f) (others.map f)) : Relocated i j entries others where
  entry := by
    have entry := h.entry
    rw [List.getElem?_map, List.getElem?_map] at entry
    exact Option.map_injective injective entry
  rest := by
    have rest := h.rest
    rw [List.eraseIdx_map, List.eraseIdx_map] at rest
    exact List.map_injective_iff.mpr injective rest

end Relocated

/-! ## Exchanges of neighbours -/

/-- A swap of neighbours carries each of them past the other. -/
theorem relocated_swap {entries : List β} {k : Nat} (inside : k + 1 < entries.length) :
    Relocated k (k + 1) entries (entries.swap k (k + 1)) ∧
      Relocated (k + 1) k entries (entries.swap k (k + 1)) := by
  induction entries generalizing k with
  | nil => simp at inside
  | cons b entries ih =>
    cases k with
    | zero =>
      cases entries with
      | nil => simp at inside
      | cons c entries => exact ⟨⟨by simp, by simp⟩, ⟨by simp, by simp⟩⟩
    | succ k =>
      obtain ⟨forward, backward⟩ := ih (k := k) (by simpa using inside)
      exact ⟨forward.cons b, backward.cons b⟩

/-! ## Reading at slots -/

/-- The entries that stand in the slots, in the order of the slots. -/
def readAt (slots : List Nat) (entries : List β) : List (Option β) :=
  slots.map (entries[·]?)

/-- As many entries are read as there are places. -/
theorem length_readAt (slots : List Nat) (entries : List β) :
    (readAt slots entries).length = slots.length :=
  List.length_map _

/-- Each entry that is read is the one at its place. -/
theorem getElem_readAt {slots : List Nat} {entries : List β} {k : Nat} (inside : k < slots.length)
    (within : k < (readAt slots entries).length) :
    (readAt slots entries)[k] = entries[slots[k]]? :=
  List.getElem_map _

/-- After a swap the second entry stands at the first place. -/
theorem getElem?_swap_left {entries : List β} {i j : Nat} (hi : i < entries.length)
    (hj : j < entries.length) : (entries.swap i j)[i]? = entries[j]? := by
  have hi' : i < (entries.swap i j).length := by simpa using hi
  rw [List.getElem?_eq_getElem hj, List.getElem?_eq_getElem hi', List.getElem_swap_left_of_lt hj]

/-- After a swap the first entry stands at the second place. -/
theorem getElem?_swap_right {entries : List β} {i j : Nat} (hi : i < entries.length)
    (hj : j < entries.length) : (entries.swap i j)[j]? = entries[i]? := by
  rw [List.swap_comm]
  exact getElem?_swap_left hj hi

section

variable {slots : List Nat} {entries : List β}

/-- Exchanging the entries of two slots swaps what is read there. -/
theorem readAt_exchangeSlots (distinct : slots.Nodup)
    (inside : ∀ slot ∈ slots, slot < entries.length) {position : Nat}
    (within : position + 1 < slots.length) :
    readAt slots (exchangeSlots slots entries position) =
      (readAt slots entries).swap position (position + 1) := by
  have first : position < slots.length := by omega
  have first_inside : slots[position] < entries.length := inside _ (List.getElem_mem first)
  have second_inside : slots[position + 1] < entries.length := inside _ (List.getElem_mem within)
  have exchanged : exchangeSlots slots entries position =
      entries.swap slots[position] slots[position + 1] := by
    unfold exchangeSlots
    rw [List.getElem?_eq_getElem first, List.getElem?_eq_getElem within]
    exact exchange_eq_swap entries _ _
  rw [exchanged]
  apply List.ext_getElem
  · rw [length_readAt, List.length_swap, length_readAt]
  intro k here there
  have first_read : position < (readAt slots entries).length := by rwa [length_readAt]
  have second_read : position + 1 < (readAt slots entries).length := by rwa [length_readAt]
  rw [length_readAt] at here
  rw [getElem_readAt here]
  -- the slots are distinct, so the entries change at these two places and nowhere else
  by_cases same : k = position
  · subst same
    rw [List.getElem_swap_left_of_lt second_read, getElem_readAt within]
    exact getElem?_swap_left first_inside second_inside
  · by_cases next : k = position + 1
    · subst next
      rw [List.getElem_swap_right_of_lt first_read, getElem_readAt first]
      exact getElem?_swap_right first_inside second_inside
    · rw [List.getElem_swap_of_ne same next, getElem_readAt here]
      apply getElem?_swap_of_ne
      · exact fun equal => same (distinct.getElem_inj_iff.mp equal)
      · exact fun equal => next (distinct.getElem_inj_iff.mp equal)

/-- A row of exchanges keeps the number of entries. -/
theorem length_foldl_exchangeSlots (slots positions : List Nat) (entries : List β) :
    (positions.foldl (exchangeSlots slots) entries).length = entries.length := by
  rw [foldl_exchangeSlots]
  exact (swapAll_perm _ entries).length_eq

/-- Exchanges on the way forwards carry an entry along. -/
theorem relocated_forward (distinct : slots.Nodup)
    (inside : ∀ slot ∈ slots, slot < entries.length) {source count : Nat}
    (within : source + count < slots.length) :
    Relocated source (source + count) (readAt slots entries)
      (readAt slots ((List.range' source count).foldl (exchangeSlots slots) entries)) := by
  induction count with
  | zero => exact .refl source _
  | succ count ih =>
    have carried := ih (by omega)
    have inside' : ∀ slot ∈ slots, slot <
        ((List.range' source count).foldl (exchangeSlots slots) entries).length := by
      rw [length_foldl_exchangeSlots]
      exact inside
    rw [List.range'_concat, List.foldl_append, Nat.one_mul, List.foldl_cons, List.foldl_nil,
      readAt_exchangeSlots distinct inside' (by omega)]
    refine carried.trans (relocated_swap ?_).1
    rw [length_readAt]
    omega

/-- Exchanges on the way backwards carry an entry along. -/
theorem relocated_backward (distinct : slots.Nodup)
    (inside : ∀ slot ∈ slots, slot < entries.length) {target count : Nat}
    (within : target + count < slots.length) :
    Relocated (target + count) target (readAt slots entries)
      (readAt slots ((List.range' target count).reverse.foldl (exchangeSlots slots) entries)) := by
  -- the way ends at `target`, so the exchange that comes last is the first of the range
  induction count generalizing target with
  | zero => exact .refl target _
  | succ count ih =>
    have carried : Relocated (target + 1 + count) (target + 1) (readAt slots entries) _ :=
      ih (by omega)
    have inside' : ∀ slot ∈ slots, slot <
        ((List.range' (target + 1) count).reverse.foldl (exchangeSlots slots) entries).length := by
      rw [length_foldl_exchangeSlots]
      exact inside
    have far : target + (count + 1) = target + 1 + count := by omega
    rw [List.range'_succ, List.reverse_cons, List.foldl_append, List.foldl_cons, List.foldl_nil,
      readAt_exchangeSlots distinct inside' (by omega), far]
    refine carried.trans (relocated_swap ?_).2
    rw [length_readAt]
    omega

/-- A move relocates an entry in what is read at the slots. -/
theorem relocated_moveWithinSlots (distinct : slots.Nodup)
    (inside : ∀ slot ∈ slots, slot < entries.length) {source target : Nat}
    (hs : source < slots.length) (ht : target < slots.length) :
    Relocated source target (readAt slots entries)
      (readAt slots (moveWithinSlots slots source target entries)) := by
  unfold moveWithinSlots
  rw [if_pos ⟨hs, ht⟩]
  split
  · have reaches : source + (target - source) = target := by omega
    have forward : Relocated source (source + (target - source)) (readAt slots entries) _ :=
      relocated_forward distinct inside (by omega)
    rwa [reaches] at forward
  · have reaches : target + (source - target) = source := by omega
    have backward : Relocated (target + (source - target)) target (readAt slots entries) _ :=
      relocated_backward distinct inside (by omega)
    rwa [reaches] at backward

end

/-- A move of items relocates one of the sortable items. -/
theorem relocated_sortable {α : Type} {items : List (Item α)} {source target : Nat}
    (hs : source < sortableCount items) (ht : target < sortableCount items) :
    Relocated source target (items.filter (·.sortable))
      ((moveWithinSlots (slots items) source target items).filter (·.sortable)) := by
  have inside (slot : Nat) (mem : slot ∈ slots items) : slot < items.length :=
    lt_length_of_mem_slots mem
  rw [← length_slots] at hs ht
  have moved := relocated_moveWithinSlots (slots_nodup items) inside hs ht
  have before : readAt (slots items) items = (items.filter (·.sortable)).map some :=
    map_getElem?_slots items
  have after : readAt (slots items) (moveWithinSlots (slots items) source target items) =
      ((moveWithinSlots (slots items) source target items).filter (·.sortable)).map some := by
    rw [← map_getElem?_slots, slots_moveWithinSlots]
    rfl
  rw [before, after] at moved
  exact moved.of_map fun _ _ => Option.some.inj

/-- The first of three sortable items goes last. -/
example : ((moveWithinSlots [0, 2, 3] 0 2
    [(⟨'a', true⟩ : Item Char), ⟨'P', false⟩, ⟨'b', true⟩, ⟨'c', true⟩]).filter
      (·.sortable)).map Item.value = ['b', 'c', 'a'] := by decide

end Picklist.Arrange
