import Mathlib.Data.List.Induction
import Picklist.Proofs.Lists
import Picklist.Timing.Debouncer

/-!
# What a debouncer lets out

A caller schedules values, polls, flushes and cancels, at any instants, and now and then a value
comes out. The history of this tells what the debouncer holds: the value that was scheduled last, if
since then there were only polls that found nothing due. A poll lets it out as soon as the delay
since that schedule is over, whatever the clock did in between, and a flush lets it out at once.

So of the values that were scheduled, those come out which are let out before the next one is
scheduled or all is cancelled, each once and in order.
-/

set_option autoImplicit false

namespace Picklist.Timing.Debouncer

variable {α : Type}

/-! ## Histories -/

/-- What a caller does with a debouncer. -/
inductive Operation (α : Type) where
  | schedule (value : α) (now : Nat)
  | poll (now : Nat)
  | flush
  | cancel
  deriving DecidableEq

/-- The value that an operation schedules. -/
@[simp]
def Operation.scheduled? : Operation α → Option α
  | schedule value _ => some value
  | _ => none

/-- An operation, and the value that came out of it. -/
structure Entry (α : Type) where
  operation : Operation α
  out : Option α
  deriving DecidableEq

/-- The value that the entry schedules. -/
def Entry.scheduled? (entry : Entry α) : Option α := entry.operation.scheduled?

/-- Whether the entry is a poll that found nothing due. -/
def Entry.isIdle : Entry α → Bool
  | ⟨.poll _, none⟩ => true
  | _ => false

/-- A poll is idle exactly if nothing came out of it. -/
@[simp]
theorem isIdle_poll (now : Nat) (out : Option α) : Entry.isIdle ⟨.poll now, out⟩ = out.isNone := by
  cases out <;> rfl

/-- A schedule is no idle poll. -/
@[simp]
theorem isIdle_schedule (value : α) (now : Nat) (out : Option α) :
    Entry.isIdle ⟨.schedule value now, out⟩ = false := rfl

/-- A flush is no idle poll. -/
@[simp]
theorem isIdle_flush (out : Option α) : Entry.isIdle ⟨.flush, out⟩ = false := rfl

/-- A cancel is no idle poll. -/
@[simp]
theorem isIdle_cancel (out : Option α) : Entry.isIdle ⟨.cancel, out⟩ = false := rfl

/-- The value that comes out of an operation, and the debouncer after it. -/
def perform (d : Debouncer α) : Operation α → Option α × Debouncer α
  | .schedule value now => (none, d.schedule value now)
  | .poll now => d.poll now
  | .flush => d.flush
  | .cancel => (none, d.cancel)

/-- The operations with what came out of them. -/
def history (d : Debouncer α) : List (Operation α) → List (Entry α)
  | [] => []
  | operation :: rest =>
    ⟨operation, (d.perform operation).1⟩ :: (d.perform operation).2.history rest

/-- The history holds the operations, each once and in order. -/
theorem map_operation_history (d : Debouncer α) (operations : List (Operation α)) :
    (d.history operations).map Entry.operation = operations := by
  induction operations generalizing d with
  | nil => rfl
  | cons operation rest ih => rw [history, List.map_cons, ih]

/-! ## What a history tells -/

/-- After the history `value` waits, scheduled at `instant`: since then nothing was scheduled,
released, flushed or cancelled. -/
def Waits (history : List (Entry α)) (value : α) (instant : Nat) : Prop :=
  ∃ before entry after, history = before ++ entry :: after ∧
    entry.operation = .schedule value instant ∧ ∀ later ∈ after, later.isIdle = true

/-- The value that waits after one more entry, with the instant of its schedule. -/
@[simp]
def Entry.waiting? (waiting : Option (α × Nat)) : Entry α → Option (α × Nat)
  | ⟨.schedule value now, _⟩ => some (value, now)
  | ⟨.poll _, none⟩ => waiting
  | _ => none

/-- The value that waits after a history, with the instant of its schedule. -/
def waiting? (history : List (Entry α)) : Option (α × Nat) :=
  history.foldl Entry.waiting? none

/-- One more entry decides about the value that waited before it. -/
theorem waiting?_concat (history : List (Entry α)) (entry : Entry α) :
    waiting? (history ++ [entry]) = entry.waiting? (waiting? history) := by
  rw [waiting?, List.foldl_append]
  rfl

/-- A value waits after one more entry if the entry schedules it, or if it waited before and the
entry is an idle poll. -/
theorem waits_concat {history : List (Entry α)} {entry : Entry α} {value : α} {instant : Nat} :
    Waits (history ++ [entry]) value instant ↔
      entry.operation = .schedule value instant ∨
        entry.isIdle = true ∧ Waits history value instant := by
  constructor
  · rintro ⟨before, scheduled, after, split, operation, idle⟩
    obtain ⟨-, rfl, -⟩ | ⟨rest, same, rfl⟩ := split_concat split
    · exact .inl operation
    · refine .inr ⟨idle entry (by simp), before, scheduled, rest, same, operation, ?_⟩
      exact fun later member => idle later (List.mem_append_left _ member)
  · rintro (operation | ⟨silent, before, scheduled, after, rfl, operation, idle⟩)
    · exact ⟨history, entry, [], rfl, operation, by simp⟩
    · refine ⟨before, scheduled, after ++ [entry], by simp, operation, ?_⟩
      intro later member
      rcases List.mem_append.mp member with early | last
      · exact idle later early
      · rwa [List.mem_singleton.mp last]

/-- The fold over a history computes the value that waits after it. -/
theorem waiting?_eq_some_iff {history : List (Entry α)} {value : α} {instant : Nat} :
    waiting? history = some (value, instant) ↔ Waits history value instant := by
  induction history using List.reverseRecOn with
  | nil => simp [waiting?, Waits]
  | append_singleton history entry ih =>
    rw [waiting?_concat, waits_concat, ← ih]
    obtain ⟨operation, out⟩ := entry
    cases operation with
    | schedule other now => simp
    | poll now => cases out <;> simp
    | flush => simp
    | cancel => simp

/-- The debouncer whose history is given. -/
def ofHistory (delay : Nat) (history : List (Entry α)) : Debouncer α where
  delay := delay
  pending := (waiting? history).map fun (value, instant) => ⟨instant + delay, value⟩

variable {delay : Nat}

/-- An operation goes on with the history. -/
theorem perform_ofHistory (history : List (Entry α)) (operation : Operation α) :
    ((ofHistory delay history).perform operation).2 = ofHistory delay
      (history ++ [⟨operation, ((ofHistory delay history).perform operation).1⟩]) := by
  unfold ofHistory
  rw [waiting?_concat]
  cases operation with
  | schedule value now => rfl
  | poll now =>
    unfold perform poll
    cases waiting? history with
    | none => rfl
    | some waiting =>
      dsimp only [Option.map_some]
      by_cases due : waiting.2 + delay ≤ now
      · simp [due]
      · simp [due]
  | flush => rfl
  | cancel => rfl

/-- What came out of an entry is what the history before it lets out. -/
theorem out_of_split {operations : List (Operation α)} {past before after : List (Entry α)}
    {entry : Entry α}
    (split : (ofHistory delay past).history operations = before ++ entry :: after) :
    entry.out = ((ofHistory delay (past ++ before)).perform entry.operation).1 := by
  induction operations generalizing past before with
  | nil => simp [history] at split
  | cons operation rest ih =>
    rw [history] at split
    cases before with
    | nil =>
      obtain ⟨rfl, -⟩ := List.cons_eq_cons.mp split
      rw [List.append_nil]
    | cons first others =>
      rw [List.cons_append, List.cons_eq_cons, perform_ofHistory] at split
      obtain ⟨rfl, split⟩ := split
      have out := ih split
      rwa [List.append_assoc, List.singleton_append] at out

/-- A poll lets out the waiting value exactly if the delay since its schedule is over. -/
theorem poll_ofHistory_iff {history : List (Entry α)} {now : Nat} {value : α} :
    ((ofHistory delay history).poll now).1 = some value ↔
      ∃ instant, Waits history value instant ∧ instant + delay ≤ now := by
  simp only [← waiting?_eq_some_iff]
  unfold poll ofHistory
  cases waiting? history with
  | none => simp
  | some waiting =>
    obtain ⟨held, instant⟩ := waiting
    dsimp only [Option.map_some]
    by_cases due : instant + delay ≤ now
    · simp [due]
    · rw [if_neg due]
      simp only [Option.some.injEq, Prod.mk.injEq, reduceCtorEq, false_iff, not_exists]
      rintro other ⟨⟨-, rfl⟩, late⟩
      exact due late

/-- A flush lets out the value that waits. -/
theorem flush_ofHistory_iff {history : List (Entry α)} {value : α} :
    (ofHistory delay history).flush.1 = some value ↔ ∃ instant, Waits history value instant := by
  simp only [← waiting?_eq_some_iff]
  unfold flush ofHistory
  cases waiting? history with
  | none => simp
  | some waiting => simp [Prod.ext_iff]

/-! ## What comes out -/

/-- Whether a value that waits before some entries is let out: the first of them that is not an idle
poll gives out something. -/
def letsOut (entries : List (Entry α)) : Bool :=
  (entries.find? (!·.isIdle)).any (·.out.isSome)

/-- An idle poll leaves it to the entries behind it whether the value is let out. -/
theorem letsOut_cons (entry : Entry α) (rest : List (Entry α)) :
    letsOut (entry :: rest) = bif entry.isIdle then letsOut rest else entry.out.isSome := by
  unfold letsOut
  cases idle : entry.isIdle with
  | true => simp [idle]
  | false => simp [idle]

/-- The scheduled values that are let out before the next schedule or cancel. -/
def delivered : List (Entry α) → List α
  | [] => []
  | entry :: rest =>
    (bif letsOut rest then entry.scheduled?.toList else []) ++ delivered rest

/-- What is let out was scheduled, and comes in that order. -/
theorem delivered_sublist (entries : List (Entry α)) :
    (delivered entries).Sublist (entries.filterMap Entry.scheduled?) := by
  induction entries with
  | nil => exact List.Sublist.refl []
  | cons entry rest ih =>
    rw [delivered]
    cases scheduled : entry.scheduled? with
    | none =>
      rw [List.filterMap_cons_none scheduled]
      simpa using ih
    | some value =>
      rw [List.filterMap_cons_some scheduled]
      cases letsOut rest with
      | true => exact ih.cons_cons value
      | false => exact ih.cons value

/-- What comes out is the value that waits, if it is let out, and then the scheduled values that
are. -/
theorem filterMap_out_history (d : Debouncer α) (operations : List (Operation α)) :
    (d.history operations).filterMap Entry.out =
      (bif letsOut (d.history operations) then (d.pending.map Scheduled.value).toList else []) ++
        delivered (d.history operations) := by
  induction operations generalizing d with
  | nil => rfl
  | cons operation rest ih =>
    rw [history, delivered, List.filterMap_cons, letsOut_cons]
    cases operation with
    | schedule value now =>
      have shown := ih (d.schedule value now)
      simpa [perform, schedule, Entry.scheduled?] using shown
    | poll now =>
      cases pending : d.pending with
      | none =>
        have shown := ih d
        simpa [perform, poll, pending, Entry.scheduled?] using shown
      | some held =>
        by_cases due : held.deadline ≤ now
        · have shown := ih { d with pending := none }
          simpa [perform, poll, pending, due, Entry.scheduled?] using shown
        · have shown := ih d
          simpa [perform, poll, pending, due, Entry.scheduled?] using shown
    | flush =>
      have shown := ih { d with pending := none }
      cases pending : d.pending with
      | none => simpa [perform, flush, pending, Entry.scheduled?] using shown
      | some held => simpa [perform, flush, pending, Entry.scheduled?] using shown
    | cancel =>
      have shown := ih { d with pending := none }
      simpa [perform, cancel, Entry.scheduled?] using shown

/-! ## The whole history -/

/-- What can be relied on in a history. -/
structure WaitsForQuiet (delay : Nat) (history : List (Entry α)) : Prop where
  /-- A poll lets out the latest schedule since the last release, flush or cancel, exactly if its
  delay is over. -/
  polled : ∀ before now out after, history = before ++ ⟨.poll now, out⟩ :: after → ∀ value,
    out = some value ↔ ∃ instant, Waits before value instant ∧ instant + delay ≤ now
  /-- A flush lets it out at once. -/
  flushed : ∀ before out after, history = before ++ ⟨.flush, out⟩ :: after → ∀ value,
    out = some value ↔ ∃ instant, Waits before value instant
  /-- What comes out are the scheduled values that are let out before the next schedule or cancel,
  in order. -/
  delivered : history.filterMap Entry.out = delivered history
  /-- No value comes out more often than it was scheduled, or in another order. -/
  ordered : (history.filterMap Entry.out).Sublist
    (history.filterMap Entry.scheduled?)

/-- **A debouncer lets out the latest value when it is quiet.** Whatever is done with a new
debouncer, at any instants: a poll lets out a value exactly if it is the latest schedule since the
last release, flush or cancel, and the delay since then is over. So the values that come out are
those which are let out before the next schedule or cancel, each once and in the order of their
schedules. -/
theorem debouncer_waits_for_quiet (delay : Nat) (operations : List (Operation α)) :
    let history := ({ delay } : Debouncer α).history operations
    history.map Entry.operation = operations ∧ WaitsForQuiet delay history := by
  intro history
  have shown : history.filterMap Entry.out = delivered history := by
    simpa using filterMap_out_history { delay } operations
  have out {before after : List (Entry α)} {entry : Entry α}
      (split : history = before ++ entry :: after) :
      entry.out = ((ofHistory delay before).perform entry.operation).1 := by
    rw [← List.nil_append before]
    rw [show history = (ofHistory delay ([] : List (Entry α))).history operations from rfl] at split
    exact out_of_split split
  refine ⟨map_operation_history _ operations, ?_, ?_, shown, ?_⟩
  · intro before now result after split value
    rw [show result = ((ofHistory delay before).poll now).1 from out split]
    exact poll_ofHistory_iff
  · intro before result after split value
    rw [show result = (ofHistory delay before).flush.1 from out split]
    exact flush_ofHistory_iff
  · rw [shown]
    exact delivered_sublist history

/-- The clock goes back, so that the second value is due before the first one would have been. -/
example : (({ delay := 10 } : Debouncer Char).history
    [.schedule 'a' 20, .schedule 'b' 5, .poll 14, .poll 15, .poll 40, .schedule 'c' 41, .cancel,
      .flush]).map Entry.out =
    [none, none, none, some 'b', none, none, none, none] := by
  decide

end Picklist.Timing.Debouncer
