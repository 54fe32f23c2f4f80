/-!
# Trailing debounce

A debouncer holds the latest scheduled value until nothing new has been scheduled for a quiet
period. Time is a number of milliseconds that the caller hands in with every operation, so a clock
that jumps back is just another sequence of numbers.
-/

set_option autoImplicit false

namespace Picklist.Timing

/-- A value together with the instant from which it may be released. -/
structure Scheduled (α : Type) where
  /-- The first instant at which the value may come out. -/
  deadline : Nat
  value : α
  deriving Repr, DecidableEq

/-- Releases the most recent value once no new value has been scheduled for `delay` milliseconds. -/
structure Debouncer (α : Type) where
  delay : Nat
  /-- The value waiting for its quiet period, if any. -/
  pending : Option (Scheduled α) := none
  deriving Repr, DecidableEq

namespace Debouncer

variable {α : Type}

/-- Replaces any waiting value and starts the quiet period again. -/
def schedule (d : Debouncer α) (value : α) (now : Nat) : Debouncer α :=
  { d with pending := some ⟨now + d.delay, value⟩ }

/-- Releases the waiting value if its quiet period is over at `now`. -/
def poll (d : Debouncer α) (now : Nat) : Option α × Debouncer α :=
  match d.pending with
  | some held =>
    if held.deadline ≤ now then (some held.value, { d with pending := none }) else (none, d)
  | none => (none, d)

/-- Releases the waiting value at once. -/
def flush (d : Debouncer α) : Option α × Debouncer α :=
  (d.pending.map Scheduled.value, { d with pending := none })

/-- Drops the waiting value. -/
def cancel (d : Debouncer α) : Debouncer α :=
  { d with pending := none }

/-- Whether a value waits for its quiet period. -/
def isPending (d : Debouncer α) : Bool :=
  d.pending.isSome

/-- The instant at which the waiting value becomes releasable. -/
def deadline (d : Debouncer α) : Option Nat :=
  d.pending.map Scheduled.deadline

end Debouncer

end Picklist.Timing
