import Picklist.Proofs.Lists
import Picklist.Proofs.Select.Frame

/-!
# The moves that a run is made of

A step of a run is made of moves: what one party does at once. There are six kinds, and each is told
here once with all that it can do to the exchange and all that the log says about it. What holds of
a whole run follows by induction on its moves.
-/

set_option autoImplicit false

namespace Picklist.Select

/-! ## What the worker can do -/

/-- The ways in which a move of the worker can turn out, with its log and the exchange after it. -/
inductive Exchange.Turn (x : Exchange) : Log → Exchange → Prop where
  | idle : Turn x [] x
  | received (r : Request) (rest : List Request) (waiting : x.worker = .waiting)
    (free : x.received = none) (queue : x.requests = r :: rest) :
    Turn x [] { x with received := some r, requests := rest }
  | called (r : Request) (waiting : x.worker = .waiting) (taken : x.received = some r)
    (latest : r.id = x.latest) :
    Turn x [.called r] { x with received := none, worker := .answering r }
  | skipped (r : Request) (waiting : x.worker = .waiting) (taken : x.received = some r)
    (older : r.id ≠ x.latest) :
    Turn x [.skipped r] { x with received := none }
  | answered (r : Request) (outcome : Except SearchError (List Choice))
    (busy : x.worker = .answering r) :
    Turn x [.sent ⟨r.id, r.query, outcome⟩]
      { x with worker := .waiting, responses := x.responses ++ [⟨r.id, r.query, outcome⟩] }
  | stopped : Turn x [] { x with worker := .stopped, received := none, requests := [] }

/-- Looking at a request turns out as a call, as passing over it, or as nothing. -/
theorem Exchange.turn_examine (x : Exchange) : x.Turn (x.workEvents .examine) x.examine := by
  unfold examine workEvents
  cases waiting : x.worker with
  | waiting =>
    cases taken : x.received with
    | none => exact .idle
    | some r =>
      by_cases latest : r.id = x.latest
      · simp only [if_pos latest]
        exact .called r waiting taken latest
      · simp only [if_neg latest]
        rw [← waiting]
        exact .skipped r waiting taken latest
  | answering r => exact .idle
  | stopped => exact .idle

/-- Answering turns out as an answer or, where nothing is being answered, as nothing. -/
theorem Exchange.turn_answer (x : Exchange) (outcome : Except SearchError (List Choice)) :
    x.Turn (x.workEvents (.answer outcome)) (x.answer outcome) := by
  unfold answer workEvents
  cases busy : x.worker with
  | waiting => exact .idle
  | answering r => exact .answered r outcome busy
  | stopped => exact .idle

/-- Every move of the worker turns out in one of these ways. -/
theorem Exchange.turn (x : Exchange) (move : WorkerMove) :
    x.Turn (x.workEvents move) (x.work move) := by
  cases move with
  | receive =>
    unfold work receive workEvents
    dsimp only
    split
    · rename_i r rest waiting free queue
      exact .received r rest waiting free queue
    · exact .idle
  | examine => exact x.turn_examine
  | answer outcome => exact x.turn_answer outcome
  | stop => exact .stopped

/-! ## What handing on can do -/

namespace Selector

/-- The ways in which handing on can turn out, with its log and the state after it. -/
inductive HandingOn (s : Selector) (x : Exchange) (now : Nat) : Log → Selector → Prop where
  | issued (held : Timing.Scheduled String) (waits : s.pendingSearch.pending = some held)
    (due : held.deadline ≤ now) :
    HandingOn s x now [.issued (x.nextRequest held.value s.candidates)]
      { s with
        pendingSearch := { s.pendingSearch with pending := none }
        search := some (x.issue held.value s.candidates) }
  | early (waits : ∀ held, s.pendingSearch.pending = some held → now < held.deadline) :
    HandingOn s x now [] s

/-- Before the end of its quiet period nothing is let out. -/
theorem poll_early (s : Selector) (now : Nat)
    (early : ∀ held, s.pendingSearch.pending = some held → now < held.deadline) :
    s.pendingSearch.poll now = (none, s.pendingSearch) := by
  unfold Timing.Debouncer.poll
  cases waits : s.pendingSearch.pending with
  | none => rfl
  | some held =>
    have late := early held waits
    exact if_neg (by omega)

/-- At the end of its quiet period what waits is let out. -/
theorem poll_due (s : Selector) (now : Nat) (held : Timing.Scheduled String)
    (waits : s.pendingSearch.pending = some held) (due : held.deadline ≤ now) :
    s.pendingSearch.poll now = (some held.value, { s.pendingSearch with pending := none }) := by
  simp [Timing.Debouncer.poll, waits, due]

/-- Handing on turns out in one of these ways. -/
theorem handingOn (s : Selector) (x : Exchange) (now : Nat) (h : s.search = some x) :
    s.HandingOn x now (s.issues now) (s.issueDueSearch now) := by
  by_cases early : ∀ held, s.pendingSearch.pending = some held → now < held.deadline
  · have silent : s.issues now = [] := by simp [issues, dueRequest?, poll_early s now early]
    have unchanged : s.issueDueSearch now = s := by simp [issueDueSearch, poll_early s now early]
    rw [silent, unchanged]
    exact .early early
  · obtain ⟨held, waits, due⟩ : ∃ held, s.pendingSearch.pending = some held ∧
        held.deadline ≤ now := by simpa using early
    have released := poll_due s now held waits due
    have new : s.issues now = [.issued (x.nextRequest held.value s.candidates)] := by
      simp [issues, dueRequest?, released, h]
    have after : s.issueDueSearch now =
        { s with
          pendingSearch := { s.pendingSearch with pending := none }
          search := some (x.issue held.value s.candidates) } := by
      simp [issueDueSearch, released, h]
    rw [new, after]
    exact .issued held waits due

/-! ## What one turn of a pump can do -/

/-- The ways in which a turn of a pump can turn out, with its log, what it says and the state after
it. -/
inductive Reading (s : Selector) (x : Exchange) : Log → Bool × Selector → Prop where
  | empty (queue : x.responses = []) :
    Reading s x [] (false, { s with search := some x.noticeStop })
  | stale (a : Response) (rest : List Response) (queue : x.responses = a :: rest)
    (older : x.isLatest a.id = false) :
    Reading s x [.read a s] (false, { s with search := some { x with responses := rest } })
  | applied (a : Response) (rest : List Response) (options : List Choice)
    (queue : x.responses = a :: rest) (latest : x.isLatest a.id = true)
    (ok : a.outcome = .ok options) :
    Reading s x [.read a s]
      (true, { s with
        search := some { x with responses := rest, inFlight := false }
        candidates := options }.refilter)
  | rejected (a : Response) (rest : List Response) (error : SearchError)
    (queue : x.responses = a :: rest) (latest : x.isLatest a.id = true)
    (failed : a.outcome = .error error) :
    Reading s x [.read a s]
      (false, { s with search := some { x with responses := rest, inFlight := false } })

/-- A turn of a pump turns out in one of these ways. -/
theorem reading (s : Selector) (x : Exchange) (h : s.search = some x) :
    s.Reading x s.reads s.readResponse := by
  unfold reads responses readResponse
  simp only [h]
  cases queue : x.responses with
  | nil => exact .empty queue
  | cons a rest =>
    have same (b : Bool) (latest : x.isLatest a.id = b) :
        Exchange.isLatest { x with responses := rest } a.id = b := latest
    cases latest : x.isLatest a.id with
    | false =>
      simp only [handleResponse, same false latest]
      exact .stale a rest queue latest
    | true =>
      simp only [handleResponse, Exchange.complete, same true latest, if_true]
      cases outcome : a.outcome with
      | ok options => exact .applied a rest options queue latest outcome
      | error e => exact .rejected a rest e queue latest outcome

end Selector

/-! ## Moves -/

/-- What one party does at once: the state before, what the log says, the state after. -/
inductive Move : Selector → Log → Selector → Prop where
  | quiet {s t : Selector} (same : SameSearch s t) : Move s [] t
  | replace (s : Selector) (candidates : List Choice) :
    Move s [.replaced candidates] (s.setCandidates candidates)
  | retype (s : Selector) (query : String) (now : Nat) :
    Move s [.typed (s.changeQuery query).normalizedQuery]
      ((s.changeQuery query).scheduleSearch now)
  | handOn {s t : Selector} {x : Exchange} {now : Nat} {new : Log} (h : s.search = some x)
    (out : s.HandingOn x now new t) : Move s new t
  | read {s : Selector} {x : Exchange} {new : Log} {result : Bool × Selector}
    (h : s.search = some x) (same : s.readResponse = result) (out : s.Reading x new result) :
    Move s new result.2
  | work {s : Selector} {x y : Exchange} {new : Log} (h : s.search = some x) (out : x.Turn new y) :
    Move s new { s with search := some y }

/-- No move takes the provider away. -/
theorem Move.isSome_search {s t : Selector} {new : Log} (move : Move s new t)
    (h : s.search.isSome) : t.search.isSome := by
  cases move with
  | quiet same => rw [same.search]; exact h
  | replace candidates => simpa [Selector.setCandidates] using h
  | retype query now => simpa [Selector.scheduleSearch, Selector.changeQuery] using h
  | handOn _ out =>
    cases out with
    | issued => rfl
    | early => exact h
  | read _ _ out =>
    cases out with
    | empty => rfl
    | stale => rfl
    | applied => simp
    | rejected => rfl
  | work => rfl

/-- A move logs one event at most. -/
theorem Move.short {s t : Selector} {new : Log} (move : Move s new t) :
    new = [] ∨ ∃ e, new = [e] := by
  cases move with
  | quiet => exact .inl rfl
  | replace => exact .inr ⟨_, rfl⟩
  | retype => exact .inr ⟨_, rfl⟩
  | handOn _ out => cases out <;> simp
  | read _ _ out => cases out <;> simp
  | work _ out => cases out <;> simp

/-- Moves one after the other. -/
inductive Moves : Selector → Log → Selector → Prop where
  | refl (s : Selector) : Moves s [] s
  | tail {s t u : Selector} {log new : Log} (moves : Moves s log t) (move : Move t new u) :
    Moves s (log ++ new) u

namespace Moves

variable {s t u : Selector} {log new : Log}

/-- A single move is a number of moves. -/
theorem single (move : Move s new t) : Moves s new t := by
  simpa using tail (refl s) move

/-- Moves behind moves are moves. -/
theorem trans (moves : Moves s log t) (more : Moves t new u) : Moves s (log ++ new) u := by
  induction more with
  | refl => simpa using moves
  | tail _ move ih =>
    rw [← List.append_assoc]
    exact ih.tail move

/-- No moves take the provider away. -/
theorem isSome_search (moves : Moves s log t) (h : s.search.isSome) : t.search.isSome := by
  induction moves with
  | refl => exact h
  | tail _ move ih => exact move.isSome_search ih

/-- Handing on is made of moves. -/
theorem of_handOn (h : s.search.isSome) (now : Nat) :
    Moves s (s.issues now) (s.issueDueSearch now) := by
  obtain ⟨x, hx⟩ := Option.isSome_iff_exists.mp h
  exact single (.handOn hx (s.handingOn x now hx))

/-- A turn of a pump is made of moves. -/
theorem of_read (h : s.search.isSome) : Moves s s.reads s.readResponse.2 := by
  obtain ⟨x, hx⟩ := Option.isSome_iff_exists.mp h
  exact single (.read hx rfl (s.reading x hx))

/-- Reading a number of times is made of single turns. -/
theorem of_manyReads (h : s.search.isSome) (turns : Nat) :
    Moves s (s.manyReads turns) (s.readResponses turns).2 := by
  induction turns generalizing s with
  | zero => exact refl s
  | succ turns ih => exact (of_read h).trans (ih ((of_read h).isSome_search h))

/-- A pump is made of moves. -/
theorem of_pump (h : s.search.isSome) : Moves s s.pumpEvents s.pumpResponses.2 :=
  of_manyReads h _

/-- What searches do not notice is made of moves that log nothing. -/
theorem of_sameSearch (same : SameSearch s t) : Moves s [] t := single (.quiet same)

/-- Every operation is made of moves. -/
theorem of_operation (h : s.search.isSome) (operation : Operation) :
    Moves s (s.operationEvents operation) (s.perform operation) := by
  cases operation with
  | setQuery query now =>
    have kept : (s.changeQuery query).search.isSome := by simpa [Selector.changeQuery] using h
    have same : s.perform (.setQuery query now) =
        ((s.changeQuery query).scheduleSearch now).issueDueSearch now := by
      simp [Selector.perform, Selector.setQuery, kept]
    rw [same]
    have scheduled : ((s.changeQuery query).scheduleSearch now).search.isSome := kept
    exact (single (.retype s query now)).trans (of_handOn scheduled now)
  | tick now =>
    have first := of_handOn h now
    exact first.trans (of_pump (first.isSome_search h))
  | handOn now => exact of_handOn h now
  | pump => exact of_pump h
  | read => exact of_read h
  | setCandidates candidates => exact single (.replace s candidates)
  | _ => exact of_sameSearch (s.sameSearch_perform rfl)

/-- Every step is made of moves. -/
theorem of_step (h : s.search.isSome) (step : Step) : Moves s (s.events step) (s.step step) := by
  cases step with
  | operation operation => exact of_operation h operation
  | worker move =>
    obtain ⟨x, hx⟩ := Option.isSome_iff_exists.mp h
    have after : s.work move = { s with search := some (x.work move) } := by
      simp [Selector.work, hx]
    have new : s.workEvents move = x.workEvents move := by simp [Selector.workEvents, hx]
    simp only [Selector.events, Selector.step, after, new]
    exact single (.work hx (x.turn move))

/-- A run is made of moves. -/
theorem of_run (h : s.search.isSome) (steps : List Step) : Moves s (s.log steps) (s.run steps) := by
  induction steps generalizing s with
  | nil => exact refl s
  | cons step rest ih =>
    have first := of_step h step
    exact first.trans (ih (first.isSome_search h))

/-- Whatever the log says was said by a move. -/
theorem at_event (moves : Moves s log t) {earlier later : Log} {e : SearchEvent}
    (split : log = earlier ++ e :: later) :
    ∃ u v, Moves s earlier u ∧ Move u [e] v ∧ Moves v later t := by
  induction moves generalizing later with
  | refl => simp at split
  | @tail t u log new moves move ih =>
    rcases move.short with silent | ⟨last, said⟩
    · rw [silent, List.append_nil] at split
      obtain ⟨v, w, before, here, after⟩ := ih split
      refine ⟨v, w, before, here, ?_⟩
      simpa [silent] using after.tail move
    · subst said
      obtain ⟨rfl, rfl, rfl⟩ | ⟨rest, prior, rfl⟩ := split_concat split
      · exact ⟨t, u, moves, move, refl u⟩
      · obtain ⟨v, w, before, here, after⟩ := ih prior
        exact ⟨v, w, before, here, after.tail move⟩

end Moves

end Picklist.Select
