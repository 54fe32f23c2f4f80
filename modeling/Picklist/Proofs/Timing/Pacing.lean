import Mathlib.Data.List.Chain
import Mathlib.Data.List.Induction
import Picklist.Proofs.Lists
import Picklist.Timing.Throttle

/-!
# The pace of a throttle

What is seen of a throttle from outside is a history: values are offered, values come out, and now
and then it is reset. The history tells all that the throttle knows. It holds the value that was
offered last, if nothing has come after that offer, and it counts the interval from the last value
that an offer or a poll let through since the last reset.

So in every history a value comes out right behind its own offer. From this all follows that one
expects of a throttle, whatever the instants are: values come out once and in order, none comes out
after a newer one was offered, and the newest is never lost.
-/

set_option autoImplicit false

namespace Picklist.Timing

variable {α : Type}

/-! ## Histories -/

/-- What is seen of a throttle. -/
inductive Event (α : Type) where
  | offered (value : α)
  /-- An offer or a poll let the value through at the given instant. -/
  | passed (value : α) (now : Nat)
  | flushed (value : α)
  | reset
  deriving Repr, DecidableEq

namespace Event

/-- The value that was offered. -/
@[simp]
def offered? : Event α → Option α
  | offered value => some value
  | _ => none

/-- The value that came out. -/
@[simp]
def released? : Event α → Option α
  | passed value _ => some value
  | flushed value => some value
  | _ => none

/-- The instant at which the clock let a value through. -/
@[simp]
def passedAt? : Event α → Option Nat
  | passed _ now => some now
  | _ => none

end Event

namespace Throttle

/-- What a caller does with a throttle. -/
inductive Operation (α : Type) where
  | offer (value : α) (now : Nat)
  | poll (now : Nat)
  | flush
  | reset

/-- The value that an operation offers. -/
@[simp]
def Operation.offered? : Operation α → Option α
  | offer value _ => some value
  | _ => none

/-- What an operation shows, and the throttle after it. -/
def perform (t : Throttle α) : Operation α → List (Event α) × Throttle α
  | .offer value now =>
    (.offered value :: (t.offer value now).1.toList.map (.passed · now), (t.offer value now).2)
  | .poll now => ((t.poll now).1.toList.map (.passed · now), (t.poll now).2)
  | .flush => (t.flush.1.toList.map .flushed, t.flush.2)
  | .reset => ([.reset], t.reset)

/-- The throttle after a number of operations. -/
def run (t : Throttle α) (operations : List (Operation α)) : Throttle α :=
  operations.foldl (fun t operation => (t.perform operation).2) t

/-- What a number of operations show. -/
def history (t : Throttle α) : List (Operation α) → List (Event α)
  | [] => []
  | operation :: rest => (t.perform operation).1 ++ (t.perform operation).2.history rest

end Throttle

/-! ## What a history tells -/

/-- The value held back after a history. -/
def held? (history : List (Event α)) : Option α :=
  history.getLast?.bind Event.offered?

/-- The instant that the interval is counted from after one more event. -/
@[simp]
def Event.clock? (last : Option Nat) : Event α → Option Nat
  | passed _ now => some now
  | reset => none
  | _ => last

/-- The instant that the interval is counted from after a history. -/
def clock? (history : List (Event α)) : Option Nat :=
  history.foldl Event.clock? none

/-- Only the last event can leave a value held back. -/
theorem held?_concat (history : List (Event α)) (event : Event α) :
    held? (history ++ [event]) = event.offered? := by
  rw [held?, List.getLast?_concat, Option.bind_some]

/-- One more event sets the clock on from where it was. -/
theorem clock?_concat (history : List (Event α)) (event : Event α) :
    clock? (history ++ [event]) = event.clock? (clock? history) := by
  rw [clock?, List.foldl_append]
  rfl

/-- The held value is the one that was offered last. -/
theorem held?_eq_some_iff {history : List (Event α)} {value : α} :
    held? history = some value ↔ history.getLast? = some (.offered value) := by
  unfold held?
  cases history.getLast? with
  | none => simp
  | some event => cases event <;> simp [Event.offered?]

/-- The throttle whose history is given. -/
def Throttle.ofHistory (interval : Nat) (history : List (Event α)) : Throttle α where
  interval := interval
  lastRelease := clock? history
  pending := held? history

/-- The event can come after the history: what comes out was held back, and the clock lets it
through no sooner than an interval after the last time. -/
def Admits (interval : Nat) (history : List (Event α)) : Event α → Prop
  | .passed value now =>
    held? history = some value ∧ ∀ last, clock? history = some last → interval ≤ now - last
  | .flushed value => held? history = some value
  | _ => True

/-- Every event of the history can come after those before it. -/
def Paced (interval : Nat) (history : List (Event α)) : Prop :=
  ∀ before event after, history = before ++ event :: after → Admits interval before event

namespace Paced

variable {interval : Nat} {history more before after : List (Event α)} {event : Event α} {value : α}

/-- The empty history is paced. -/
theorem nil : Paced interval ([] : List (Event α)) := by
  intro before event after split
  simp at split

/-- A paced history stays paced under an event that can come after it. -/
theorem concat (paced : Paced interval history) (admits : Admits interval history event) :
    Paced interval (history ++ [event]) := by
  intro before other after split
  obtain ⟨rfl, rfl, -⟩ | ⟨rest, split, -⟩ := split_concat split
  · exact admits
  · exact paced before other rest split

/-- The beginning of a paced history is paced. -/
theorem of_append (paced : Paced interval (history ++ more)) : Paced interval history := by
  intro before event after split
  apply paced before event (after ++ more)
  rw [split, List.append_assoc, List.cons_append]

/-- The last event of a paced history can come after those before it. -/
theorem last (paced : Paced interval (history ++ [event])) : Admits interval history event :=
  paced history event [] rfl

/-- What comes out was offered just before. -/
theorem follows_offer (paced : Paced interval (before ++ event :: after))
    (released : event.released? = some value) : before.getLast? = some (.offered value) := by
  have admits := paced before event after rfl
  cases event with
  | offered other => cases released
  | passed other now =>
    obtain rfl : other = value := Option.some.inj released
    exact held?_eq_some_iff.mp admits.1
  | flushed other =>
    obtain rfl : other = value := Option.some.inj released
    exact held?_eq_some_iff.mp admits
  | reset => cases released

/-- What has come out, with what is held behind it, is a part of what was offered, in order. -/
theorem released_sublist (paced : Paced interval history) :
    (history.filterMap Event.released? ++ (held? history).toList).Sublist
      (history.filterMap Event.offered?) := by
  induction history using List.reverseRecOn with
  | nil => exact List.Sublist.refl []
  | append_singleton history event ih =>
    have before := ih paced.of_append
    have fewer := (List.sublist_append_left _ _).trans before
    have admits := paced.last
    rw [List.filterMap_append, List.filterMap_append, held?_concat]
    cases event with
    | offered value => simpa [List.filterMap_cons] using fewer.append_right [value]
    | passed value now =>
      rw [admits.1] at before
      simpa [List.filterMap_cons] using before
    | flushed value =>
      rw [show held? history = some value from admits] at before
      simpa [List.filterMap_cons] using before
    | reset => simpa [List.filterMap_cons] using fewer

/-- What the clock lets through without a reset in between keeps the interval, and the interval is
counted from the last of it. -/
theorem chain_passedAt (paced : Paced interval (before ++ history)) (going : .reset ∉ history) :
    (history.filterMap Event.passedAt?).IsChain (fun first second => interval ≤ second - first) ∧
      ∀ last, (history.filterMap Event.passedAt?).getLast? = some last →
        clock? (before ++ history) = some last := by
  induction history using List.reverseRecOn with
  | nil => simp
  | append_singleton history event ih =>
    rw [← List.append_assoc] at paced ⊢
    rw [List.mem_append, not_or] at going
    obtain ⟨chain, counted⟩ := ih paced.of_append going.1
    have admits := paced.last
    rw [List.filterMap_append, clock?_concat]
    cases event with
    | passed value now =>
      have apart : ∀ last ∈ (history.filterMap Event.passedAt?).getLast?,
          interval ≤ now - last := fun last here => admits.2 last (counted last here)
      simpa [List.filterMap_cons, List.isChain_append, chain] using apart
    | reset => simp at going
    | _ =>
      exact ⟨by simpa [List.filterMap_cons] using chain,
        by simpa [List.filterMap_cons] using counted⟩

end Paced

/-! ## Runs of a throttle -/

namespace Throttle

variable {interval : Nat} {history : List (Event α)}

/-- The gate is open exactly if the interval since the last passage is over. -/
theorem isOpen_ofHistory (interval : Nat) (history : List (Event α)) (now : Nat) :
    (ofHistory interval history).isOpen now = true ↔
      ∀ last, clock? history = some last → interval ≤ now - last := by
  unfold isOpen ofHistory
  cases clock? history with
  | none => simp
  | some last => simp

/-- An operation goes on with the history, and what it leaves is what the history tells. -/
structure Tells (interval : Nat) (history : List (Event α))
    (result : List (Event α) × Throttle α) : Prop where
  paced : Paced interval (history ++ result.1)
  after : result.2 = ofHistory interval (history ++ result.1)

/-- A poll, or a flush, that has nothing to release shows nothing. -/
theorem tells_nothing (paced : Paced interval history) :
    Tells interval history ([], ofHistory interval history) := by
  constructor <;> rw [List.append_nil]
  exact paced

/-- An offer goes on with the history: it shows the value, and lets it through if the gate is
open. -/
theorem tells_offer (paced : Paced interval history) (value : α) (now : Nat) :
    Tells interval history ((ofHistory interval history).perform (.offer value now)) := by
  have offered : Paced interval (history ++ [.offered value]) := paced.concat trivial
  have held : held? (history ++ [.offered value]) = some value := held?_concat _ _
  have clock : clock? (history ++ [.offered value]) = clock? history := clock?_concat _ _
  unfold perform offer
  dsimp only
  by_cases isOpen : (ofHistory interval history).isOpen now = true
  · have spaced := (isOpen_ofHistory interval history now).mp isOpen
    rw [← clock] at spaced
    have passed : Paced interval (history ++ [.offered value] ++ [.passed value now]) :=
      offered.concat ⟨held, spaced⟩
    rw [if_pos isOpen]
    rw [List.append_assoc, List.singleton_append] at passed
    refine ⟨passed, ?_⟩
    show _ = ofHistory interval (history ++ [.offered value, .passed value now])
    rw [ofHistory, ofHistory, List.append_cons, held?_concat, clock?_concat]
    rfl
  · rw [if_neg isOpen]
    refine ⟨offered, ?_⟩
    show _ = ofHistory interval (history ++ [.offered value])
    rw [ofHistory, ofHistory, held, clock]

/-- A poll goes on with the history: it lets the held value through if the gate is open. -/
theorem tells_poll (paced : Paced interval history) (now : Nat) :
    Tells interval history ((ofHistory interval history).perform (.poll now)) := by
  unfold perform poll
  dsimp only
  cases held : (ofHistory interval history).pending with
  | none => exact tells_nothing paced
  | some value =>
    dsimp only
    by_cases isOpen : (ofHistory interval history).isOpen now = true
    · have spaced := (isOpen_ofHistory interval history now).mp isOpen
      have passed : Paced interval (history ++ [.passed value now]) := paced.concat ⟨held, spaced⟩
      rw [if_pos isOpen]
      refine ⟨passed, ?_⟩
      show _ = ofHistory interval (history ++ [.passed value now])
      rw [ofHistory, ofHistory, held?_concat, clock?_concat]
      rfl
    · rw [if_neg isOpen]
      exact tells_nothing paced

/-- A flush goes on with the history: it lets out the held value whatever the clock says. -/
theorem tells_flush (paced : Paced interval history) :
    Tells interval history ((ofHistory interval history).perform .flush) := by
  have shown : (ofHistory interval history).perform .flush =
      ((held? history).toList.map .flushed,
        { interval, lastRelease := clock? history, pending := none }) := rfl
  rw [shown]
  cases held : held? history with
  | none =>
    have same : ofHistory interval history =
        { interval, lastRelease := clock? history, pending := none } := by rw [ofHistory, held]
    rw [← same]
    exact tells_nothing paced
  | some value =>
    have flushed : Paced interval (history ++ [.flushed value]) := paced.concat held
    refine ⟨flushed, ?_⟩
    show _ = ofHistory interval (history ++ [.flushed value])
    rw [ofHistory, held?_concat, clock?_concat]
    rfl

/-- A reset goes on with the history. -/
theorem tells_reset (paced : Paced interval history) :
    Tells interval history ((ofHistory interval history).perform .reset) := by
  have reset : Paced interval (history ++ [.reset]) := paced.concat trivial
  refine ⟨reset, ?_⟩
  show (ofHistory interval history).reset = ofHistory interval (history ++ [.reset])
  rw [ofHistory, ofHistory, held?_concat, clock?_concat]
  rfl

/-- Every operation goes on with the history. -/
theorem tells_perform (paced : Paced interval history) (operation : Operation α) :
    Tells interval history ((ofHistory interval history).perform operation) := by
  cases operation with
  | offer value now => exact tells_offer paced value now
  | poll now => exact tells_poll paced now
  | flush => exact tells_flush paced
  | reset => exact tells_reset paced

/-- Operations one after another go on with the history. -/
theorem tells_run (paced : Paced interval history) (operations : List (Operation α)) :
    Tells interval history ((ofHistory interval history).history operations,
      (ofHistory interval history).run operations) := by
  induction operations generalizing history with
  | nil => exact tells_nothing paced
  | cons operation rest ih =>
    obtain ⟨next, after⟩ := tells_perform paced operation
    obtain ⟨all, last⟩ := ih next
    rw [← after, List.append_assoc] at all last
    exact ⟨all, last⟩

/-- Every offer is seen. -/
theorem offered_history (t : Throttle α) (operations : List (Operation α)) :
    (t.history operations).filterMap Event.offered? =
      operations.filterMap Operation.offered? := by
  induction operations generalizing t with
  | nil => rfl
  | cons operation rest ih =>
    have passed (out : Option α) (now : Nat) :
        (out.toList.map (Event.passed · now)).filterMap Event.offered? = [] := by
      cases out <;> rfl
    have flushed (out : Option α) :
        (out.toList.map Event.flushed).filterMap Event.offered? = [] := by
      cases out <;> rfl
    rw [history, List.filterMap_append, ih]
    cases operation with
    | offer value now => simp [perform, passed]
    | poll now => simp [perform, passed, List.filterMap_cons]
    | flush => simp [perform, flushed, List.filterMap_cons]
    | reset => rfl

end Throttle

/-! ## The pace -/

/-- What can be relied on in a history after which `held` is held back. -/
structure KeepsPace (interval : Nat) (history : List (Event α)) (held : Option α) : Prop where
  /-- Between resets the clock lets values through at least an interval apart, an instant that lies
  back counting as no time passed. -/
  spaced : ∀ before stretch after, history = before ++ stretch ++ after → .reset ∉ stretch →
    (stretch.filterMap Event.passedAt?).IsChain fun first second => interval ≤ second - first
  /-- The values that come out are some of those that were offered, in the same order. -/
  ordered : (history.filterMap Event.released?).Sublist (history.filterMap Event.offered?)
  /-- A value comes out right behind its offer: not after a newer offer, and not twice. -/
  fresh : ∀ before event after value, history = before ++ event :: after →
    event.released? = some value → before.getLast? = some (.offered value)
  /-- The newest value since the last reset is held back, or has come out and nothing is held. -/
  kept : ∀ before value after, history = before ++ .offered value :: after →
    (∀ event ∈ after, event.offered? = none ∧ event ≠ .reset) →
    (after = [] ∧ held = some value) ∨
      held = none ∧ ∃ event, after = [event] ∧ event.released? = some value

/-- Every event but an offer and a reset lets a value out. -/
theorem exists_released_of_quiet {event : Event α}
    (quiet : event.offered? = none ∧ event ≠ .reset) : ∃ value, event.released? = some value := by
  cases event with
  | offered value => cases quiet.1
  | passed value now => exact ⟨value, rfl⟩
  | flushed value => exact ⟨value, rfl⟩
  | reset => exact absurd rfl quiet.2

/-- Behind an offer nothing but its value comes out, and only once. -/
theorem Paced.kept {interval : Nat} {before after : List (Event α)} {value : α}
    (paced : Paced interval (before ++ .offered value :: after))
    (quiet : ∀ event ∈ after, event.offered? = none ∧ event ≠ .reset) :
    after = [] ∨ ∃ event, after = [event] ∧ event.released? = some value := by
  cases after with
  | nil => exact .inl rfl
  | cons first rest =>
    obtain ⟨quiet_first, quiet_rest⟩ := List.forall_mem_cons.mp quiet
    obtain ⟨out, released⟩ := exists_released_of_quiet quiet_first
    rw [List.append_cons] at paced
    have offered := paced.follows_offer released
    rw [List.getLast?_concat, Option.some.injEq, Event.offered.injEq] at offered
    subst offered
    refine .inr ⟨first, ?_, released⟩
    cases rest with
    | nil => rfl
    | cons second rest =>
      -- the second value would have to follow an offer, but it follows the first one
      obtain ⟨quiet_second, -⟩ := List.forall_mem_cons.mp quiet_rest
      obtain ⟨later, released'⟩ := exists_released_of_quiet quiet_second
      rw [List.append_cons] at paced
      have again := paced.follows_offer released'
      rw [List.getLast?_concat, Option.some.injEq] at again
      rw [again] at released
      cases released

/-- A paced history keeps the pace with what it holds back. -/
theorem Paced.keepsPace {interval : Nat} {history : List (Event α)}
    (paced : Paced interval history) : KeepsPace interval history (held? history) where
  spaced := by
    rintro before stretch after rfl going
    exact (paced.of_append.chain_passedAt going).1
  ordered := (List.sublist_append_left _ _).trans paced.released_sublist
  fresh := by
    rintro before event after value rfl released
    exact paced.follows_offer released
  kept := by
    rintro before value after rfl quiet
    obtain rfl | ⟨event, rfl, released⟩ := paced.kept quiet
    · exact .inl ⟨rfl, held?_concat before (.offered value)⟩
    · refine .inr ⟨?_, event, rfl, released⟩
      rw [List.append_cons, held?_concat]
      exact (quiet event List.mem_cons_self).1

/-- **A throttle keeps pace.** Whatever is done with a new throttle, at any instants: every offer is
seen in the history, between resets the clock lets values through at least an interval apart, values
come out once, in order and none after a newer one was offered, and the newest is never lost. -/
theorem throttle_keeps_pace (interval : Nat) (operations : List (Throttle.Operation α)) :
    let fresh : Throttle α := { interval }
    let history := fresh.history operations
    history.filterMap Event.offered? = operations.filterMap Throttle.Operation.offered? ∧
      KeepsPace interval history (fresh.run operations).pending := by
  intro fresh history
  have start : Paced interval ([] : List (Event α)) := .nil
  have told : Throttle.Tells interval [] (history, fresh.run operations) :=
    Throttle.tells_run start operations
  have pending : (fresh.run operations).pending = held? history := congrArg _ told.after
  rw [pending]
  exact ⟨fresh.offered_history operations, told.paced.keepsPace⟩

/-- The clock goes back, which only makes the values wait; a flush does not wait. -/
example : ({ interval := 10 } : Throttle Char).history
    [.offer 'a' 20, .offer 'b' 5, .poll 29, .offer 'c' 25, .poll 30, .offer 'd' 31, .flush] =
    [.offered 'a', .passed 'a' 20, .offered 'b', .offered 'c', .passed 'c' 30, .offered 'd',
      .flushed 'd'] := by
  decide

end Picklist.Timing
