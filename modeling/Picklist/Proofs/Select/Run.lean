import Picklist.Select.Selector

/-!
# Runs of a select list

A run interleaves what the caller does with what the search worker does, in any order and at any
instants. The two halves of a tick and the single turns of a pump are operations as well, so the
worker may also move between them, and whatever the provider answers is part of the worker's move.

Every run leaves a log of what happened to its searches. An answer that is read is logged together
with the state in which it was read.
-/

set_option autoImplicit false

namespace Picklist.Select

/-! ## Steps -/

/-- What a caller does with a select list whose provider stays in place. -/
inductive Operation where
  | setQuery (query : String) (now : Nat)
  | tick (now : Nat)
  /-- The first half of a tick: hand on the waiting query if its quiet period is over. -/
  | handOn (now : Nat)
  | pump
  /-- One turn of a pump. -/
  | read
  | setCandidates (candidates : List Choice)
  | select (choice : Choice)
  | remove (key : String)
  | moveHighlight (direction : Direction)
  | commitHighlighted
  | press (key : Key)
  | openList
  | close
  | withHooks (hooks : Hooks)
  /-- Insert choices into the selection without events. -/
  | withSelected (choices : List Choice)

/-- What the search worker does at a time. -/
inductive WorkerMove where
  /-- Take the oldest request. -/
  | receive
  /-- Look at the request that was taken: call the provider or pass over it. -/
  | examine
  /-- Send what the provider answered. -/
  | answer (outcome : Except SearchError (List Choice))
  | stop

/-- A step of either party. -/
inductive Step where
  | operation (operation : Operation)
  | worker (move : WorkerMove)

/-- The exchange after a move of the worker. -/
def Exchange.work (x : Exchange) : WorkerMove → Exchange
  | .receive => x.receive
  | .examine => x.examine
  | .answer outcome => x.answer outcome
  | .stop => x.stop

namespace Selector

/-- The select list after an operation. -/
def perform (s : Selector) : Operation → Selector
  | .setQuery query now => s.setQuery query now
  | .tick now => (s.tick now).2
  | .handOn now => s.issueDueSearch now
  | .pump => s.pumpResponses.2
  | .read => s.readResponse.2
  | .setCandidates candidates => s.setCandidates candidates
  | .select choice => (s.select choice).2
  | .remove key => (s.remove key).2
  | .moveHighlight direction => (s.moveHighlight direction).2
  | .commitHighlighted => s.commitHighlighted.2
  | .press key => (s.handleKey key).2
  | .openList => s.openList
  | .close => s.close
  | .withHooks hooks => s.withHooks hooks
  | .withSelected choices => s.withSelected choices

/-- The select list after a move of the worker. -/
def work (s : Selector) (move : WorkerMove) : Selector :=
  { s with search := s.search.map (·.work move) }

/-- The select list after a step. -/
def step (s : Selector) : Step → Selector
  | .operation operation => s.perform operation
  | .worker move => s.work move

/-- The select list after a run. -/
def run (s : Selector) (steps : List Step) : Selector :=
  steps.foldl step s

end Selector

/-! ## Whole lives -/

/-- What can happen to a select list from its construction on: any step, and a new provider at any
time. -/
inductive Action where
  | step (step : Step)
  | attach

namespace Selector

/-- The select list after an action. -/
def act (s : Selector) : Action → Selector
  | .step step => s.step step
  | .attach => s.withProvider

/-- The select list after a number of actions. -/
def live (s : Selector) (actions : List Action) : Selector :=
  actions.foldl act s

/-- What holds of a select list and is kept by every action holds for its whole life. -/
theorem live_induction {holds : Selector → Prop} {s : Selector} (start : holds s)
    (kept : ∀ (t : Selector) (action : Action), holds t → holds (t.act action))
    (actions : List Action) : holds (s.live actions) := by
  induction actions generalizing s with
  | nil => exact start
  | cons action rest ih => exact ih (kept s action start)

end Selector

/-! ## The log of a run -/

/-- What can happen to the searches of a select list. -/
inductive SearchEvent where
  /-- A query was typed; this is its normal form. -/
  | typed (query : String)
  | issued (request : Request)
  | skipped (request : Request)
  | called (request : Request)
  | sent (response : Response)
  /-- An answer was read in the given state. -/
  | read (response : Response) (state : Selector)
  | replaced (candidates : List Choice)

/-- What happened, in the order in which it happened. -/
abbrev Log := List SearchEvent

namespace Log

/-- The searches that were issued. -/
def issued (log : Log) : List Request :=
  log.filterMap fun | .issued request => some request | _ => none

/-- The search that was issued last. -/
def newest? (log : Log) : Option Request := issued log |>.getLast?

/-- The answers that were sent. -/
def sent (log : Log) : List Response :=
  log.filterMap fun | .sent response => some response | _ => none

/-- The answers that were read. -/
def reads (log : Log) : List Response :=
  log.filterMap fun | .read response _ => some response | _ => none

/-- The answers that were applied: those whose reading said that the candidates changed. -/
def applied (log : Log) : List Response :=
  log.filterMap fun
    | .read response state => if state.readResponse.1 then some response else none
    | _ => none

/-- The lists that became the candidates: those of the caller and those of the applied answers. -/
def written (log : Log) : List (List Choice) :=
  log.filterMap fun
    | .replaced candidates => some candidates
    | .read response state => if state.readResponse.1 then response.outcome.toOption else none
    | _ => none

variable (log new : Log) {rest : Log}

/-- The searches of two logs, one after the other, are those of both. -/
theorem issued_append : issued (log ++ new) = issued log ++ issued new := List.filterMap_append

/-- The answers sent in two logs, one after the other, are those of both. -/
theorem sent_append : sent (log ++ new) = sent log ++ sent new := List.filterMap_append

/-- The answers read in two logs, one after the other, are those of both. -/
theorem reads_append : reads (log ++ new) = reads log ++ reads new := List.filterMap_append

/-- The lists written in two logs, one after the other, are those of both. -/
theorem written_append : written (log ++ new) = written log ++ written new := List.filterMap_append

variable {log new}

/-! Events of other kinds do not show. -/

/-- Where nothing is issued the searches stay the same. -/
theorem issued_append_of_nil (silent : issued new = []) : issued (log ++ new) = issued log := by
  rw [issued_append, silent, List.append_nil]

/-- Where nothing is sent the answers sent stay the same. -/
theorem sent_append_of_nil (silent : sent new = []) : sent (log ++ new) = sent log := by
  rw [sent_append, silent, List.append_nil]

/-- Where nothing is read the answers read stay the same. -/
theorem reads_append_of_nil (silent : reads new = []) : reads (log ++ new) = reads log := by
  rw [reads_append, silent, List.append_nil]

/-- Where no list is written the lists stay the same. -/
theorem written_append_of_nil (silent : written new = []) :
    written (log ++ new) = written log := by
  rw [written_append, silent, List.append_nil]

/-- A bound on the searches in a log holds up to any point of it. -/
theorem issued_length_lt {bound : Nat} (few : (issued log).length < bound)
    (split : log = new ++ rest) : (issued new).length < bound := by
  rw [split, issued_append, List.length_append] at few
  omega

end Log

/-- What a move of the worker does to the searches. -/
def Exchange.workEvents (x : Exchange) : WorkerMove → Log
  | .receive => []
  | .examine =>
    match x.worker, x.received with
    | .waiting, some r => if r.id = x.latest then [.called r] else [.skipped r]
    | _, _ => []
  | .answer outcome =>
    match x.worker with
    | .answering r => [.sent ⟨r.id, r.query, outcome⟩]
    | _ => []
  | .stop => []

namespace Selector

/-- The search that is handed on at `now`, if a query is due and there is a worker. -/
def dueRequest? (s : Selector) (now : Nat) : Option Request := do
  let x ← s.search
  let query ← (s.pendingSearch.poll now).1
  return x.nextRequest query s.candidates

/-- What handing on does to the searches. -/
def issues (s : Selector) (now : Nat) : Log :=
  (s.dueRequest? now).toList.map .issued

/-- What a turn of a pump does to the searches: it reads the oldest answer. -/
def reads (s : Selector) : Log :=
  s.responses.head?.toList.map (.read · s)

/-- What some turns of a pump do to the searches. -/
def manyReads (s : Selector) : Nat → Log
  | 0 => []
  | turns + 1 => s.reads ++ s.readResponse.2.manyReads turns

/-- What a pump does to the searches. -/
def pumpEvents (s : Selector) : Log :=
  s.manyReads (s.responses.length + 1)

/-- What an operation does to the searches. -/
def operationEvents (s : Selector) : Operation → Log
  | .setQuery query now =>
    let s := s.changeQuery query
    .typed s.normalizedQuery :: (s.scheduleSearch now).issues now
  | .tick now => s.issues now ++ (s.issueDueSearch now).pumpEvents
  | .handOn now => s.issues now
  | .pump => s.pumpEvents
  | .read => s.reads
  | .setCandidates candidates => [.replaced candidates]
  | .select _ | .remove _ | .moveHighlight _ | .commitHighlighted | .press _
  | .openList | .close | .withHooks _ | .withSelected _ => []

/-- What a move of the worker does to the searches, if there is a worker. -/
def workEvents (s : Selector) (move : WorkerMove) : Log :=
  match s.search with
  | some x => x.workEvents move
  | none => []

/-- What a step does to the searches. -/
def events (s : Selector) : Step → Log
  | .operation operation => s.operationEvents operation
  | .worker move => s.workEvents move

/-- What a run does to the searches, in order. -/
def log (s : Selector) : List Step → Log
  | [] => []
  | step :: rest => s.events step ++ (s.step step).log rest

end Selector

end Picklist.Select
