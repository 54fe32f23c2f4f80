import Mathlib.Data.List.Perm.Basic
import Picklist.Arrange.Item
import Picklist.Arrange.Move

/-!
# A move is a row of swaps

Whatever a list holds, a move inside slots swaps the same pairs of places, one pair after the other,
and all of these places are slots. So what a swap keeps is kept by a move: the entries, up to their
order, and all that stands outside the slots. Since the places do not depend on the entries, moving
commutes with every function on the entries.

In a list of items the slots are the places of the sortable ones. A swap of two of them changes no
mark, so the slots themselves are the same after the move.
-/

set_option autoImplicit false

namespace Picklist.Arrange

variable {β γ : Type}

/-! ## Swapping pair after pair -/

/-- Swaps the entries of each pair of places in turn. -/
def swapAll (pairs : List (Nat × Nat)) (entries : List β) : List β :=
  pairs.foldl (fun entries pair => entries.swap pair.1 pair.2) entries

/-- A row of swaps begins with its first. -/
theorem swapAll_cons (pair : Nat × Nat) (pairs : List (Nat × Nat)) (entries : List β) :
    swapAll (pair :: pairs) entries = swapAll pairs (entries.swap pair.1 pair.2) := rfl

/-- Swaps rearrange the entries. -/
theorem swapAll_perm (pairs : List (Nat × Nat)) (entries : List β) :
    (swapAll pairs entries).Perm entries := by
  induction pairs generalizing entries with
  | nil => exact List.Perm.refl entries
  | cons pair pairs ih =>
    rw [swapAll_cons]
    exact (ih _).trans (List.swap_perm entries pair.1 pair.2)

/-- A swap leaves the other entries alone. -/
theorem getElem?_swap_of_ne {entries : List β} {i j k : Nat} (hi : k ≠ i) (hj : k ≠ j) :
    (entries.swap i j)[k]? = entries[k]? := by
  by_cases hk : k < entries.length
  · have hk' : k < (entries.swap i j).length := by simpa using hk
    rw [List.getElem?_eq_getElem hk, List.getElem?_eq_getElem hk',
      List.getElem_swap_of_ne hi hj hk']
  · have hk' : (entries.swap i j).length ≤ k := by simpa using hk
    rw [List.getElem?_eq_none hk', List.getElem?_eq_none (Nat.le_of_not_lt hk)]

/-- Swaps leave alone what none of them touches. -/
theorem getElem?_swapAll_of_ne {pairs : List (Nat × Nat)} {k : Nat}
    (apart : ∀ pair ∈ pairs, k ≠ pair.1 ∧ k ≠ pair.2) (entries : List β) :
    (swapAll pairs entries)[k]? = entries[k]? := by
  induction pairs generalizing entries with
  | nil => rfl
  | cons pair pairs ih =>
    obtain ⟨⟨first, second⟩, rest⟩ := List.forall_mem_cons.mp apart
    rw [swapAll_cons, ih rest, getElem?_swap_of_ne first second]

/-- Swapping does not look at the entries. -/
theorem swap_map (f : β → γ) (entries : List β) (i j : Nat) :
    (entries.map f).swap i j = (entries.swap i j).map f := by
  by_cases hi : i < entries.length
  · by_cases hj : j < entries.length
    · rw [List.swap_eq_of_lt (by simpa using hi) (by simpa using hj), List.swap_eq_of_lt hi hj]
      simp only [List.map_set, List.getElem_map]
    · rw [List.swap_eq_of_ge_right (by simpa using hj),
        List.swap_eq_of_ge_right (Nat.le_of_not_lt hj)]
  · rw [List.swap_eq_of_ge_left (by simpa using hi),
      List.swap_eq_of_ge_left (Nat.le_of_not_lt hi)]

/-- The places that are swapped do not depend on the entries. -/
theorem swapAll_map (f : β → γ) (pairs : List (Nat × Nat)) (entries : List β) :
    swapAll pairs (entries.map f) = (swapAll pairs entries).map f := by
  induction pairs generalizing entries with
  | nil => rfl
  | cons pair pairs ih => rw [swapAll_cons, swapAll_cons, swap_map, ih]

/-- Swapping equal entries changes nothing. -/
theorem swap_eq_self {entries : List β} {i j : Nat} {b : β} (hi : entries[i]? = some b)
    (hj : entries[j]? = some b) : entries.swap i j = entries := by
  obtain ⟨inside, first⟩ := List.getElem?_eq_some_iff.mp hi
  obtain ⟨inside', second⟩ := List.getElem?_eq_some_iff.mp hj
  have unchanged : entries.set i b = entries := by rw [← first, List.set_getElem_self]
  rw [List.swap_eq_of_lt inside inside', first, second, unchanged, ← second,
    List.set_getElem_self]

/-- Swaps of equal entries change nothing. -/
theorem swapAll_eq_self {pairs : List (Nat × Nat)} {entries : List β} {b : β}
    (equal : ∀ pair ∈ pairs, entries[pair.1]? = some b ∧ entries[pair.2]? = some b) :
    swapAll pairs entries = entries := by
  induction pairs with
  | nil => rfl
  | cons pair pairs ih =>
    obtain ⟨⟨first, second⟩, rest⟩ := List.forall_mem_cons.mp equal
    rw [swapAll_cons, swap_eq_self first second, ih rest]

/-! ## The swaps of a move -/

/-- An exchange of two entries is a swap, also where one of them is missing. -/
theorem exchange_eq_swap (entries : List β) (i j : Nat) :
    exchange entries i j = entries.swap i j := by
  unfold exchange
  by_cases hi : i < entries.length
  · by_cases hj : j < entries.length
    · rw [List.swap_eq_of_lt hi hj, List.getElem?_eq_getElem hi, List.getElem?_eq_getElem hj]
    · have beyond := Nat.le_of_not_lt hj
      rw [List.swap_eq_of_ge_right beyond, List.getElem?_eq_getElem hi,
        List.getElem?_eq_none beyond]
  · have beyond := Nat.le_of_not_lt hi
    rw [List.swap_eq_of_ge_left beyond, List.getElem?_eq_none beyond]

/-- The pair of places that an exchange of a slot with the next one swaps. -/
def neighbours (slots : List Nat) (position : Nat) : List (Nat × Nat) :=
  match slots[position]?, slots[position + 1]? with
  | some i, some j => [(i, j)]
  | _, _ => []

/-- An exchange of neighbouring slots is the swap of these, if there are both. -/
theorem exchangeSlots_eq_swapAll (slots : List Nat) (entries : List β) (position : Nat) :
    exchangeSlots slots entries position = swapAll (neighbours slots position) entries := by
  unfold exchangeSlots neighbours
  cases slots[position]? with
  | none => rfl
  | some i =>
    cases slots[position + 1]? with
    | none => rfl
    | some j => exact exchange_eq_swap entries i j

/-- A row of exchanges is a row of swaps. -/
theorem foldl_exchangeSlots (slots positions : List Nat) (entries : List β) :
    positions.foldl (exchangeSlots slots) entries =
      swapAll (positions.flatMap (neighbours slots)) entries := by
  induction positions generalizing entries with
  | nil => rfl
  | cons position positions ih =>
    rw [List.foldl_cons, ih, exchangeSlots_eq_swapAll, List.flatMap_cons]
    simp only [swapAll, List.foldl_append]

/-- The pairs of places that a move swaps, in order. -/
def movePairs (slots : List Nat) (source target : Nat) : List (Nat × Nat) :=
  if source < slots.length ∧ target < slots.length then
    if source < target then
      (List.range' source (target - source)).flatMap (neighbours slots)
    else (List.range' target (source - target)).reverse.flatMap (neighbours slots)
  else []

/-- A move is a row of swaps. -/
theorem moveWithinSlots_eq_swapAll (slots : List Nat) (source target : Nat) (entries : List β) :
    moveWithinSlots slots source target entries =
      swapAll (movePairs slots source target) entries := by
  unfold moveWithinSlots movePairs
  split
  · split <;> exact foldl_exchangeSlots slots _ entries
  · rfl

/-- Only slots are swapped. -/
theorem mem_slots_of_mem_neighbours {slots : List Nat} {position : Nat} {pair : Nat × Nat}
    (h : pair ∈ neighbours slots position) : pair.1 ∈ slots ∧ pair.2 ∈ slots := by
  unfold neighbours at h
  split at h
  · rename_i i j first second
    obtain rfl := List.mem_singleton.mp h
    exact ⟨List.mem_of_getElem? first, List.mem_of_getElem? second⟩
  · cases h

/-- A move touches slots only. -/
theorem mem_slots_of_mem_movePairs {slots : List Nat} {source target : Nat} {pair : Nat × Nat}
    (h : pair ∈ movePairs slots source target) : pair.1 ∈ slots ∧ pair.2 ∈ slots := by
  have near {positions : List Nat} (h : pair ∈ positions.flatMap (neighbours slots)) :
      pair.1 ∈ slots ∧ pair.2 ∈ slots := by
    obtain ⟨_, -, h⟩ := List.mem_flatMap.mp h
    exact mem_slots_of_mem_neighbours h
  unfold movePairs at h
  split at h
  · split at h <;> exact near h
  · cases h

/-! ## What a move keeps -/

/-- A move rearranges the entries. -/
theorem moveWithinSlots_perm (slots : List Nat) (source target : Nat) (entries : List β) :
    (moveWithinSlots slots source target entries).Perm entries := by
  rw [moveWithinSlots_eq_swapAll]
  exact swapAll_perm _ entries

/-- A move leaves the entries outside the slots alone. -/
theorem getElem?_moveWithinSlots_of_notMem {slots : List Nat} {k : Nat} (outside : k ∉ slots)
    (source target : Nat) (entries : List β) :
    (moveWithinSlots slots source target entries)[k]? = entries[k]? := by
  rw [moveWithinSlots_eq_swapAll]
  apply getElem?_swapAll_of_ne
  intro pair member
  obtain ⟨first, second⟩ := mem_slots_of_mem_movePairs member
  constructor
  · rintro rfl
    exact outside first
  · rintro rfl
    exact outside second

/-- What stands between the slots stays. -/
example : moveWithinSlots [0, 2, 3] 0 2 ['a', 'P', 'b', 'c'] = ['b', 'P', 'c', 'a'] := by decide

/-- Moving does not look at the entries. -/
theorem moveWithinSlots_map (f : β → γ) (slots : List Nat) (source target : Nat)
    (entries : List β) :
    moveWithinSlots slots source target (entries.map f) =
      (moveWithinSlots slots source target entries).map f := by
  simp only [moveWithinSlots_eq_swapAll, swapAll_map]

/-! ## Moves of items -/

section Items

variable {α : Type}

/-- The slots are the indices of the sortable items. -/
theorem mem_slots {items : List (Item α)} {index : Nat} :
    index ∈ slots items ↔ ∃ item, items[index]? = some item ∧ item.sortable = true := by
  simp only [slots, List.mem_map, List.mem_filter, Prod.exists, List.mem_zipIdx_iff_getElem?]
  constructor
  · rintro ⟨item, place, ⟨there, sortable⟩, rfl⟩
    exact ⟨item, there, sortable⟩
  · rintro ⟨item, there, sortable⟩
    exact ⟨item, index, ⟨there, sortable⟩, rfl⟩

/-- A pinned item stands in no slot. -/
theorem notMem_slots_of_pinned {items : List (Item α)} {index : Nat} {item : Item α}
    (there : items[index]? = some item) (pinned : item.sortable = false) :
    index ∉ slots items := by
  rw [mem_slots]
  rintro ⟨other, found, sortable⟩
  rw [there, Option.some.injEq] at found
  rw [found, sortable] at pinned
  cases pinned

/-- The slots depend on the marks only. -/
theorem slots_eq_of_map_sortable (items : List (Item α)) :
    slots items = ((items.map Item.sortable).zipIdx.filter Prod.fst).map Prod.snd := by
  rw [List.zipIdx_map, List.filter_map, List.map_map]
  rfl

/-- A move of sortable items changes no mark. -/
theorem map_sortable_moveWithinSlots (items : List (Item α)) (source target : Nat) :
    (moveWithinSlots (slots items) source target items).map Item.sortable =
      items.map Item.sortable := by
  rw [← moveWithinSlots_map, moveWithinSlots_eq_swapAll]
  apply swapAll_eq_self (b := true)
  intro pair member
  have marked {index : Nat} (h : index ∈ slots items) :
      (items.map Item.sortable)[index]? = some true := by
    obtain ⟨item, there, sortable⟩ := mem_slots.mp h
    rw [List.getElem?_map, there, Option.map_some, sortable]
  obtain ⟨first, second⟩ := mem_slots_of_mem_movePairs member
  exact ⟨marked first, marked second⟩

/-- A move leaves the slots where they are. -/
theorem slots_moveWithinSlots (items : List (Item α)) (source target : Nat) :
    slots (moveWithinSlots (slots items) source target items) = slots items := by
  rw [slots_eq_of_map_sortable, map_sortable_moveWithinSlots, ← slots_eq_of_map_sortable]

end Items

end Picklist.Arrange
