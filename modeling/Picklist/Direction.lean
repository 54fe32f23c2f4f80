/-!
# Steps through a cyclic list

Highlights and keyboard moves walk through a list in one of two directions and continue at the
other end when they pass the last or the first place.
-/

set_option autoImplicit false

namespace Picklist

/-- The way a highlight or a keyboard move goes through a list. -/
inductive Direction where
  /-- Towards the end of the list. -/
  | forward
  /-- Towards the start of the list. -/
  | backward
  deriving Repr, DecidableEq, Inhabited

namespace Direction

/-- One step from `index` inside a cycle of `length` places; an empty cycle has no place to go. -/
def stepWrapping (direction : Direction) (index length : Nat) : Option Nat :=
  if length = 0 then none
  else
    match direction with
    | forward => some ((index % length + 1) % length)
    | backward => some ((index % length + length - 1) % length)

/-- The place where a walk without a position enters a list of `length` places. -/
def entry (direction : Direction) (length : Nat) : Nat :=
  match direction with
  | forward => 0
  | backward => length - 1

variable (direction : Direction) {length : Nat}

/-- The place at which a direction enters a list lies in the list. -/
theorem entry_lt (places : 0 < length) : direction.entry length < length := by
  cases direction with
  | forward => exact places
  | backward => exact Nat.sub_lt places Nat.one_pos

/-- A step leads somewhere inside a cycle that is not empty. -/
theorem exists_stepWrapping (index : Nat) (places : 0 < length) :
    ∃ next, direction.stepWrapping index length = some next ∧ next < length := by
  unfold stepWrapping
  rw [if_neg (by omega)]
  cases direction with
  | forward => exact ⟨_, rfl, Nat.mod_lt _ places⟩
  | backward => exact ⟨_, rfl, Nat.mod_lt _ places⟩

end Direction

end Picklist
