/-!
# Moves inside slots

A move takes the entry of one slot to another slot by exchanging neighbouring slots on the way.
Entries outside the slots stay where they are. The place where an item lands is counted after it has
been taken out, so places behind it come forward by one.
-/

set_option autoImplicit false

namespace Picklist.Arrange

variable {β : Type}

/-- Exchanges two entries. -/
def exchange (entries : List β) (i j : Nat) : List β :=
  match entries[i]?, entries[j]? with
  | some a, some b => (entries.set i b).set j a
  | _, _ => entries

/-- Exchanges the entries of a slot and the next one. -/
def exchangeSlots (slots : List Nat) (entries : List β) (position : Nat) : List β :=
  match slots[position]?, slots[position + 1]? with
  | some i, some j => exchange entries i j
  | _, _ => entries

/-- Moves the entry at slot `source` to slot `target`; the entries of the slots between them move
one slot towards the source. Nothing happens if there is no such slot. -/
def moveWithinSlots (slots : List Nat) (source target : Nat) (entries : List β) : List β :=
  if source < slots.length ∧ target < slots.length then
    if source < target then
      (List.range' source (target - source)).foldl (exchangeSlots slots) entries
    else
      (List.range' target (source - target)).reverse.foldl (exchangeSlots slots) entries
  else entries

/-- The position at which the item from position `source` lands when it is dropped just before or
just after the item at position `candidate`. Dropped on itself it stays. -/
def dropPosition (source candidate : Nat) (before : Bool) : Nat :=
  if candidate = source then source
  else
    let gap := if before then candidate else candidate + 1
    if source < candidate then gap - 1 else gap

end Picklist.Arrange
