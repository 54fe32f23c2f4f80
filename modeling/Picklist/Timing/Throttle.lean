/-!
# Rate limit

A throttle lets at most one value through per interval. A value that comes too soon is held, the
latest one replacing any held before, and comes out with a later poll or flush.
-/

set_option autoImplicit false

namespace Picklist.Timing

/-- Releases at most one value per `interval` milliseconds and holds the latest value that came too
soon. -/
structure Throttle (α : Type) where
  /-- The least distance between two releases, in milliseconds. -/
  interval : Nat
  /-- The instant of the last release since the last reset. -/
  lastRelease : Option Nat := none
  /-- The value held back, if any. -/
  pending : Option α := none
  deriving Repr, DecidableEq

namespace Throttle

variable {α : Type}

/-- Whether a value may pass at `now`; an instant before the last release counts as no time
passed. -/
def isOpen (t : Throttle α) (now : Nat) : Bool :=
  match t.lastRelease with
  | none => true
  | some last => t.interval ≤ now - last

/-- Lets `value` through when the gate is open, and holds it otherwise. -/
def offer (t : Throttle α) (value : α) (now : Nat) : Option α × Throttle α :=
  if t.isOpen now then (some value, { t with pending := none, lastRelease := some now })
  else (none, { t with pending := some value })

/-- Releases the held value if the gate is open at `now`. -/
def poll (t : Throttle α) (now : Nat) : Option α × Throttle α :=
  match t.pending with
  | some value =>
    if t.isOpen now then (some value, { t with pending := none, lastRelease := some now })
    else (none, t)
  | none => (none, t)

/-- Releases the held value whatever the time; this does not count as a release for the interval. -/
def flush (t : Throttle α) : Option α × Throttle α :=
  (t.pending, { t with pending := none })

/-- Forgets the held value and the last release. -/
def reset (t : Throttle α) : Throttle α :=
  { t with pending := none, lastRelease := none }

/-- Whether a value is held back. -/
def isPending (t : Throttle α) : Bool :=
  t.pending.isSome

end Throttle

end Picklist.Timing
