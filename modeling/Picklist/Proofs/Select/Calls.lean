import Picklist.Proofs.Select.LastQuery
import Picklist.Proofs.Select.Mailbox

/-!
# Calls of the provider

The provider is called with searches in the order in which they were issued, each time with the one
that is the newest then, and with the candidates of the moment at which that was issued. A worker
that takes and examines requests as soon as it can makes the calls and sends the answers of a
mailbox whose owner opens it as soon as he can.

A search is issued in two halves: its number is published first, and then it is queued. What the
worker does between the two it can do as well when both are over.
-/

set_option autoImplicit false

namespace Picklist.Select

/-! ## Eager workers -/

/-- What reaches the worker from outside. -/
inductive Occasion where
  | issue (query : String) (previous : List Choice)
  | answer (outcome : Except SearchError (List Choice))

/-- Whether a search is issued on the occasion. -/
def Occasion.isIssue : Occasion → Bool
  | issue _ _ => true
  | answer _ => false

namespace Exchange

/-- The exchange after what reaches the worker from outside. -/
def meet (x : Exchange) : Occasion → Exchange
  | .issue query previous => x.issue query previous
  | .answer outcome => x.answer outcome

/-- What is sent on an occasion. -/
def sends (x : Exchange) : Occasion → Log
  | .issue _ _ => []
  | .answer outcome => x.workEvents (.answer outcome)

/-- The call to which a waiting worker advances. -/
def calls (x : Exchange) : Log :=
  match x.worker with
  | .waiting => x.advance.answering?.toList.map .called
  | _ => []

/-- The calls and answers of a worker that advances after every occasion. -/
def eagerLog (x : Exchange) : List Occasion → Log
  | [] => []
  | occasion :: rest =>
    x.sends occasion ++ (x.meet occasion).calls ++ (x.meet occasion).advance.eagerLog rest

/-- What some moves of the worker do to the searches. -/
def workLog (x : Exchange) : List WorkerMove → Log
  | [] => []
  | move :: rest => x.workEvents move ++ (x.work move).workLog rest

/-- By taking and examining requests, one after the other, a worker gets to where it advances, and
makes the call to which it advances. -/
def StepsAhead (x : Exchange) : Prop :=
  ∃ moves : List WorkerMove, (∀ move ∈ moves, move = .receive ∨ move = .examine) ∧
    x.advance = moves.foldl work x ∧ Log.called x.calls = (x.workLog moves).called

/-- A move that calls nothing can be made first, if the worker waits after it and advances to the
same place. -/
theorem StepsAhead.cons {x : Exchange} {move : WorkerMove} (waiting : x.worker = .waiting)
    (taking : move = .receive ∨ move = .examine) (silent : (x.workEvents move).called = [])
    (still : (x.work move).worker = .waiting) (same : x.advance = (x.work move).advance)
    (h : (x.work move).StepsAhead) : x.StepsAhead := by
  obtain ⟨moves, only, ends, told⟩ := h
  have calls : x.calls = (x.work move).calls := by
    unfold calls
    rw [waiting, still, same]
  refine ⟨move :: moves, List.forall_mem_cons.mpr ⟨taking, only⟩, same.trans ends, ?_⟩
  rw [calls, told, workLog, Log.called_append, silent, List.nil_append]

/-- A worker that has taken a request calls with it or passes over it. -/
theorem stepsAhead_of_taken {x : Exchange} {r : Request} (waiting : x.worker = .waiting)
    (taken : x.received = some r) (free : StepsAhead { x with received := none }) :
    x.StepsAhead := by
  by_cases latest : r.id = x.latest
  · have ahead : x.advance = { x with received := none, worker := .answering r } := by
      simp [advance, unseen, waiting, taken, latest]
    refine ⟨[.examine], by simp, ?_, ?_⟩
    · simp [ahead, work, examine, waiting, taken, latest]
    · simp [calls, ahead, answering?, workLog, workEvents, waiting, taken, latest]
  · have passed : x.work .examine = { x with received := none } := by
      simp [work, examine, waiting, taken, latest]
    have silent : (x.workEvents .examine).called = [] := by
      simp [workEvents, waiting, taken, latest, Log.called]
    refine .cons waiting (.inr rfl) silent ?_ ?_ ?_
    · rw [passed]
      exact waiting
    · simp [passed, advance, unseen, waiting, taken, latest]
    · rw [passed]
      exact free

/-- A waiting worker that has taken no request takes one after the other. -/
theorem stepsAhead_of_free {x : Exchange} {queue : List Request} (waiting : x.worker = .waiting)
    (free : x.received = none) (requests : x.requests = queue) : x.StepsAhead := by
  induction queue generalizing x with
  | nil =>
    have stays : x.advance = x := by
      cases x
      simp_all [advance, unseen]
    refine ⟨[], by simp, stays, ?_⟩
    simp [calls, stays, answering?, workLog, waiting]
  | cons r rest ih =>
    have taken : x.work .receive = { x with received := some r, requests := rest } := by
      simp [work, receive, waiting, free, requests]
    refine .cons waiting (.inl rfl) rfl ?_ ?_ ?_
    · rw [taken]
      exact waiting
    · simp [taken, advance, unseen, waiting, free, requests]
    · rw [taken]
      exact stepsAhead_of_taken waiting rfl (ih waiting rfl rfl)

/-- Where a worker advances to it gets by taking and examining requests. -/
theorem stepsAhead (x : Exchange) : x.StepsAhead := by
  cases waiting : x.worker with
  | waiting =>
    cases taken : x.received with
    | none => exact stepsAhead_of_free waiting taken rfl
    | some r => exact stepsAhead_of_taken waiting taken (stepsAhead_of_free waiting rfl rfl)
  | answering r =>
    exact ⟨[], by simp, by simp [advance, waiting], by simp [calls, workLog, waiting]⟩
  | stopped => exact ⟨[], by simp, by simp [advance, waiting], by simp [calls, workLog, waiting]⟩

end Exchange

namespace Mailbox

/-- The mailbox after what reaches its owner from outside. -/
def meet (m : Mailbox) : Occasion → Mailbox
  | .issue query previous =>
    { m with latest := m.latest + 1, letter := some ⟨m.latest + 1, query, previous⟩ }
  | .answer _ => { m with answering := none }

/-- What the owner of the mailbox sends on an occasion. -/
def sends (m : Mailbox) : Occasion → Log
  | .issue _ _ => []
  | .answer outcome => m.answering.toList.map fun r => .sent ⟨r.id, r.query, outcome⟩

/-- The letter is taken out, unless another one has not been answered. -/
def advance (m : Mailbox) : Mailbox :=
  match m.answering with
  | none => { m with letter := none, answering := m.letter }
  | some _ => m

/-- The call that is made with the letter, unless another one is being answered. -/
def calls (m : Mailbox) : Log :=
  match m.answering with
  | none => m.letter.toList.map .called
  | some _ => []

/-- The calls and answers of a mailbox that is opened after every occasion. -/
def eagerLog (m : Mailbox) : List Occasion → Log
  | [] => []
  | occasion :: rest =>
    m.sends occasion ++ (m.meet occasion).calls ++ (m.meet occasion).advance.eagerLog rest

end Mailbox

/-- A living worker shows a mailbox, and the request that was issued last is the last in the
queue. -/
structure InStep (x : Exchange) (m : Mailbox) : Prop extends Shows x m where
  alive : x.worker ≠ .stopped
  latest : m.latest = x.latest
  ordered : ∀ older r, x.unseen = older ++ [r] →
    r.id = x.latest ∧ ∀ q ∈ older, q.id < x.latest

namespace InStep

variable {x : Exchange} {m : Mailbox}

/-- A new worker shows an empty mailbox. -/
theorem new : InStep {} {} where
  letter := rfl
  answering := rfl
  alive := by simp
  latest := rfl
  ordered := by simp [Exchange.unseen]

/-- No request in the queue is newer than the latest search. -/
theorem unseen_le (h : InStep x m) {q : Request} (mem : q ∈ x.unseen) : q.id ≤ x.latest := by
  rcases List.eq_nil_or_concat x.unseen with empty | ⟨older, r, queue⟩
  · rw [empty] at mem
    cases mem
  · rw [List.concat_eq_append] at queue
    obtain ⟨last, before⟩ := h.ordered older r queue
    rw [queue, List.mem_append, List.mem_singleton] at mem
    rcases mem with old | rfl
    · exact Nat.le_of_lt (before q old)
    · exact Nat.le_of_eq last

/-- Issuing a search puts a letter into the mailbox. -/
theorem issue (h : InStep x m) (room : x.latest < Exchange.lastId) (query : String)
    (previous : List Choice) :
    (x.issue query previous).latest = x.latest + 1 ∧
      InStep (x.issue query previous) (m.meet (.issue query previous)) := by
  have number : (x.nextRequest query previous).id = x.latest + 1 := by
    show min (x.latest + 1) Exchange.lastId = x.latest + 1
    omega
  have same : x.nextRequest query previous = ⟨m.latest + 1, query, previous⟩ := by
    rw [h.latest, ← number]
    rfl
  have alive := h.alive
  unfold Exchange.issue
  split
  · rename_i stopped
    exact absurd stopped alive
  · have unseen : Exchange.unseen
        { x with
          latest := (x.nextRequest query previous).id
          inFlight := true
          requests := x.requests ++ [x.nextRequest query previous] } =
        x.unseen ++ [x.nextRequest query previous] := by
      unfold Exchange.unseen
      rw [List.append_assoc]
    refine ⟨number, ?_⟩
    refine
      { letter := by rw [unseen, List.getLast?_concat, same]; rfl
        answering := h.answering
        alive := alive
        latest := ?_
        ordered := ?_ }
    · show m.latest + 1 = (x.nextRequest query previous).id
      rw [number, h.latest]
    · intro older r split
      rw [unseen] at split
      obtain ⟨rfl, last⟩ := List.append_inj' split rfl
      obtain rfl : x.nextRequest query previous = r := by simpa using last
      refine ⟨rfl, ?_⟩
      intro q mem
      have bound := h.unseen_le mem
      show q.id < (x.nextRequest query previous).id
      omega

/-- The answers of the worker are those of the owner of the mailbox. -/
theorem answer (h : InStep x m) (outcome : Except SearchError (List Choice)) :
    x.sends (.answer outcome) = m.sends (.answer outcome) ∧
      (x.answer outcome).latest = x.latest ∧
      InStep (x.answer outcome) (m.meet (.answer outcome)) := by
  have answering := h.answering
  cases worker : x.worker with
  | stopped => exact absurd worker h.alive
  | waiting =>
    have free : m.answering = none := by simp [answering, Exchange.answering?, worker]
    have same : x.answer outcome = x := by simp [Exchange.answer, worker]
    have still : m.meet (.answer outcome) = m := by
      unfold Mailbox.meet
      dsimp only
      rw [← free]
    rw [same, still]
    refine ⟨?_, rfl, h⟩
    simp [Exchange.sends, Exchange.workEvents, Mailbox.sends, worker, free]
  | answering r =>
    have busy : m.answering = some r := by simp [answering, Exchange.answering?, worker]
    have sent : x.answer outcome =
        { x with
          worker := .waiting
          responses := x.responses ++ [⟨r.id, r.query, outcome⟩] } := by
      simp [Exchange.answer, worker]
    rw [sent]
    refine ⟨?_, rfl, ?_⟩
    · simp [Exchange.sends, Exchange.workEvents, Mailbox.sends, worker, busy]
    · exact
        { letter := h.letter
          answering := rfl
          alive := by simp
          latest := h.latest
          ordered := h.ordered }

/-- Of the requests in the queue an advancing worker calls with the last. -/
theorem advance (h : InStep x m) :
    x.calls = m.calls ∧ x.advance.latest = x.latest ∧ InStep x.advance m.advance := by
  have answering := h.answering
  have letter := h.letter
  cases worker : x.worker with
  | stopped => exact absurd worker h.alive
  | answering r =>
    have busy : m.answering = some r := by simp [answering, Exchange.answering?, worker]
    have stays : x.advance = x := by simp [Exchange.advance, worker]
    have closed : m.advance = m := by simp [Mailbox.advance, busy]
    rw [stays, closed]
    refine ⟨?_, rfl, h⟩
    simp [Exchange.calls, Mailbox.calls, worker, busy]
  | waiting =>
    have free : m.answering = none := by simp [answering, Exchange.answering?, worker]
    have opened : m.advance = { m with letter := none, answering := m.letter } := by
      simp [Mailbox.advance, free]
    rcases List.eq_nil_or_concat x.unseen with empty | ⟨older, r, queue⟩
    · have stays : x.advance = { x with received := none, requests := [] } := by
        simp [Exchange.advance, worker, empty]
      rw [empty, List.getLast?_nil] at letter
      refine ⟨?_, by rw [stays], ?_⟩
      · simp [Exchange.calls, Mailbox.calls, Exchange.answering?, worker, stays, free, letter]
      · rw [stays, opened]
        exact
          { letter := rfl
            answering := by simp [Exchange.answering?, worker, letter]
            alive := h.alive
            latest := h.latest
            ordered := by simp [Exchange.unseen] }
    · rw [List.concat_eq_append] at queue
      obtain ⟨last, before⟩ := h.ordered older r queue
      -- a number is published before the worker looks, so all requests but the last are passed over
      have passed : x.unseen.dropWhile (·.id != x.latest) = [r] := by
        rw [queue, List.dropWhile_append_of_pos]
        · simp [last]
        · intro q mem
          have below := before q mem
          rw [bne_iff_ne]
          omega
      have called : x.advance =
          { x with received := none, requests := [], worker := .answering r } := by
        simp [Exchange.advance, worker, passed]
      rw [queue, List.getLast?_concat] at letter
      refine ⟨?_, by rw [called], ?_⟩
      · simp [Exchange.calls, Mailbox.calls, Exchange.answering?, worker, called, free, letter]
      · rw [called, opened]
        exact
          { letter := rfl
            answering := by simp [Exchange.answering?, letter]
            alive := by simp
            latest := h.latest
            ordered := by simp [Exchange.unseen] }

/-- An eager worker calls and answers as the owner of the mailbox does. -/
theorem eagerLog (h : InStep x m) {occasions : List Occasion}
    (room : x.latest + occasions.countP Occasion.isIssue ≤ Exchange.lastId) :
    x.eagerLog occasions = m.eagerLog occasions := by
  induction occasions generalizing x m with
  | nil => rfl
  | cons occasion rest ih =>
    unfold Exchange.eagerLog Mailbox.eagerLog
    cases occasion with
    | issue query previous =>
      rw [List.countP_cons_of_pos rfl] at room
      obtain ⟨latest, issued⟩ := h.issue (by omega) query previous
      obtain ⟨calls, kept, advanced⟩ := issued.advance
      have after := ih advanced (by omega)
      unfold Exchange.meet
      dsimp only
      rw [calls, after]
      rfl
    | answer outcome =>
      rw [List.countP_cons_of_neg Bool.false_ne_true] at room
      obtain ⟨sends, latest, answered⟩ := h.answer outcome
      obtain ⟨calls, kept, advanced⟩ := answered.advance
      have after := ih advanced (by omega)
      unfold Exchange.meet
      dsimp only
      rw [sends, calls, after]

end InStep

/-! ## Issuing in two halves -/

namespace Exchange

/-- The number of a search is published. -/
def publish (x : Exchange) (r : Request) : Exchange :=
  { x with latest := r.id }

/-- A search whose number has been published is queued. -/
def enqueue (x : Exchange) (r : Request) : Exchange :=
  match x.worker with
  | .stopped => { x with inFlight := false }
  | _ => { x with inFlight := true, requests := x.requests ++ [r] }

/-- A search is issued by publishing its number and queueing it. -/
theorem issue_eq_enqueue (x : Exchange) (query : String) (previous : List Choice) :
    x.issue query previous =
      (x.publish (x.nextRequest query previous)).enqueue (x.nextRequest query previous) := by
  unfold issue publish enqueue
  cases x.worker <;> rfl

/-- What the worker does before a search is queued it does after that as well, unless it finds the
queue empty. -/
theorem work_enqueue (x : Exchange) (r : Request) {move : WorkerMove} (lives : move ≠ .stop) :
    (x.workEvents move = [] ∧ x.work move = x) ∨
      (x.workEvents move = (x.enqueue r).workEvents move ∧
        (x.work move).enqueue r = (x.enqueue r).work move) := by
  obtain ⟨latest, inFlight, requests, worker, received, responses⟩ := x
  cases move with
  | stop => exact absurd rfl lives
  | receive =>
    cases worker with
    | waiting =>
      cases received with
      | some taken => exact .inr ⟨rfl, rfl⟩
      | none =>
        cases requests with
        | nil => exact .inl ⟨rfl, rfl⟩
        | cons first rest => exact .inr ⟨rfl, rfl⟩
    | answering taken => exact .inr ⟨rfl, rfl⟩
    | stopped => exact .inr ⟨rfl, rfl⟩
  | examine =>
    cases worker with
    | waiting =>
      cases received with
      | some taken =>
        by_cases same : taken.id = latest
        · simp [workEvents, work, examine, enqueue, same]
        · simp [workEvents, work, examine, enqueue, same]
      | none => exact .inr ⟨rfl, rfl⟩
    | answering taken => exact .inr ⟨rfl, rfl⟩
    | stopped => exact .inr ⟨rfl, rfl⟩
  | answer outcome => cases worker <;> exact .inr ⟨rfl, rfl⟩

/-- A run of the worker between the two halves of issuing is one that follows both. -/
theorem workLog_enqueue (x : Exchange) (r : Request) {between : List WorkerMove}
    (lives : ∀ move ∈ between, move ≠ .stop) :
    ∃ after : List WorkerMove, after.Sublist between ∧
      x.workLog between = (x.enqueue r).workLog after ∧
      (between.foldl work x).enqueue r = after.foldl work (x.enqueue r) := by
  induction between generalizing x with
  | nil => exact ⟨[], List.Sublist.refl _, rfl, rfl⟩
  | cons move rest ih =>
    obtain ⟨first, others⟩ := List.forall_mem_cons.mp lives
    obtain ⟨after, fewer, logs, ends⟩ := ih (x.work move) others
    have told : x.workLog (move :: rest) = x.workEvents move ++ (x.work move).workLog rest := rfl
    rw [told, List.foldl_cons]
    rcases x.work_enqueue r first with ⟨silent, idle⟩ | ⟨same, moved⟩
    -- a worker that found the queue empty would take the search now: this move is left out
    · rw [idle] at logs ends ⊢
      refine ⟨after, fewer.cons move, ?_, ends⟩
      rw [silent, List.nil_append, logs]
    · refine ⟨move :: after, fewer.cons_cons move, ?_, ?_⟩
      · rw [same, logs, moved]
        rfl
      · rw [ends, moved, List.foldl_cons]

end Exchange

/-! ## On whole runs -/

/-- What was issued was issued at some point of the log. -/
theorem Log.exists_split_of_mem_issued {log : Log} {r : Request} (mem : r ∈ log.issued) :
    ∃ first rest : Log, log = first ++ .issued r :: rest := by
  obtain ⟨e, there, shown⟩ := List.mem_filterMap.mp mem
  obtain ⟨first, rest, split⟩ := List.append_of_mem there
  cases e with
  | issued q =>
    obtain rfl : q = r := Option.some.inj shown
    exact ⟨first, rest, split⟩
  | _ => cases shown

/-- A search carries the candidates of the moment at which it is issued. -/
theorem Moves.previous_of_issued {s t : Selector} {log first rest : Log} {r : Request}
    (moves : Moves s log t) (split : log = first ++ .issued r :: rest) :
    r.previous = first.written.getLast?.getD s.candidates := by
  obtain ⟨u, v, before, here, -⟩ := moves.at_event split
  rw [← before.candidates_eq]
  cases here with
  | handOn found out =>
    cases out with
    | issued held waits due => rfl
  | read _ _ out => cases out
  | work _ out => cases out

/-- The provider is called with increasing numbers. -/
theorem Tracked.called_increasing {log : Log} {x : Exchange} {m : Mailbox} (h : Tracked log x)
    (account : Mailbox.Account log m) : (log.called.map Request.id).Pairwise (· < ·) := by
  have calls : log.called.Sublist log.issued :=
    (List.sublist_append_left _ _).trans account.inOrder
  have ordered : (log.issued.map Request.id).Pairwise (· < ·) := by
    rw [h.numbered]
    exact List.pairwise_lt_range'
  exact ordered.sublist (calls.map Request.id)

/-- **The worker is a mailbox.** On every run with a new worker that does not run out of search
numbers:

the provider is called with increasing numbers, each time with the newest search and with the
candidates that were cached when that search was issued;

only searches that are older than the newest one are passed over;

the log can happen in a mailbox, whose letter is the newest request that the worker has not looked
at; every call is answered once before the next one; and when the worker waits and no request is
left, the last call was for the newest search.

So a worker that takes requests as soon as it can calls and answers as a mailbox does that keeps
only the newest letter; it gets ahead by single moves of taking and examining. What the worker does
between the publishing of a number and the queueing of its search makes no difference to any of
this: it does the same after both. -/
theorem worker_is_a_mailbox (s : Selector) (steps : List Step)
    (few : (s.withProvider.log steps).issued.length < Exchange.lastId) :
    let log := s.withProvider.log steps
    (log.called.map Request.id).Pairwise (· < ·) ∧
    (∀ (earlier : Log) r later, log = earlier ++ .called r :: later →
      earlier.newest? = some r ∧
        ∃ first rest : Log, earlier = first ++ .issued r :: rest ∧
          r.previous = first.written.getLast?.getD s.candidates) ∧
    (∀ (earlier : Log) r later, log = earlier ++ .skipped r :: later →
      ∃ newest, earlier.newest? = some newest ∧ r.id < newest.id) ∧
    (∃ x m, (s.withProvider.run steps).search = some x ∧ Mailbox.replay {} log = some m ∧
      (x.worker ≠ .stopped → Shows x m) ∧
      log.called.map Request.heading =
        log.sent.map Response.heading ++ m.answering.toList.map Request.heading ∧
      (x.worker = .waiting → x.unseen = [] → log.called.getLast? = log.newest?)) ∧
    (∀ occasions : List Occasion, occasions.countP Occasion.isIssue ≤ Exchange.lastId →
      Exchange.eagerLog {} occasions = Mailbox.eagerLog {} occasions) ∧
    (∀ x : Exchange, x.StepsAhead) ∧
    ∀ (x : Exchange) query previous (between : List WorkerMove),
      (∀ move ∈ between, move ≠ .stop) →
      let r := x.nextRequest query previous
      ∃ after : List WorkerMove, after.Sublist between ∧
        (x.publish r).workLog between = (x.issue query previous).workLog after ∧
        (between.foldl Exchange.work (x.publish r)).enqueue r =
          after.foldl Exchange.work (x.issue query previous) := by
  intro log
  have moves : Moves s.withProvider log (s.withProvider.run steps) := Moves.of_run rfl steps
  obtain ⟨x, m, search, replayed, shown⟩ := Shows.of_moves moves rfl few
  obtain ⟨y, same, tracked⟩ := Tracked.of_moves moves rfl few
  obtain rfl : x = y := Option.some.inj (search.symm.trans same)
  have account : Mailbox.Account log m := Mailbox.Account.new.replay replayed
  refine ⟨tracked.called_increasing account, ?called, ?skipped, ?mailbox, ?eager,
    Exchange.stepsAhead, ?halves⟩
  case called =>
    intro earlier r later split
    rw [split] at replayed
    have newest : earlier.newest? = some r := Mailbox.newest_of_called replayed
    refine ⟨newest, ?_⟩
    obtain ⟨first, rest, issued⟩ := Log.exists_split_of_mem_issued (List.mem_of_getLast? newest)
    refine ⟨first, rest, issued, ?_⟩
    apply moves.previous_of_issued
    rw [split, issued, List.append_assoc, List.cons_append]
  case skipped =>
    intro earlier r later split
    exact moves.skipped_older rfl few split
  case mailbox =>
    refine ⟨x, m, search, replayed, shown, account.answered, ?_⟩
    intro waiting done
    have alive : x.worker ≠ .stopped := by simp [waiting]
    have letter : m.letter = none := by rw [(shown alive).letter, done, List.getLast?_nil]
    rw [← account.newest, letter, Option.none_or]
  case eager =>
    intro occasions few
    apply InStep.new.eagerLog
    show 0 + occasions.countP Occasion.isIssue ≤ Exchange.lastId
    rw [Nat.zero_add]
    exact few
  case halves =>
    intro x query previous between lives r
    rw [Exchange.issue_eq_enqueue]
    exact (x.publish r).workLog_enqueue r lives

/-- Two queries are typed while the provider is answering a first one, and the candidates change
before and after the second of them. -/
def piledUp : List Step :=
  [.operation (.setQuery "a" 0), .worker .receive, .worker .examine,
    .operation (.setQuery "ab" 1), .operation (.setCandidates [.ofLabel "Apple"]),
    .operation (.setQuery "abc" 2), .operation (.setCandidates []),
    .worker (.answer (.ok [.ofLabel "Pear"])), .operation .pump, .worker .receive,
    .worker .examine, .worker .receive, .worker .examine, .worker (.answer (.ok []))]

/-- The provider is called with the first and the third query, and the second time with the
candidates that were cached when the query was typed. -/
theorem worker_is_a_mailbox_piled_up :
    let log := (Selector.ofChoices {} []).withProvider.log piledUp
    log.issued.length < Exchange.lastId ∧ log.issued.map Request.query = ["a", "ab", "abc"] ∧
      log.called.map Request.heading = [(1, "a"), (3, "abc")] ∧
      log.called.map Request.previous = [[], [.ofLabel "Apple"]] ∧
      (log.called.map Request.id).Pairwise (· < ·) ∧
      ∃ x m, ((Selector.ofChoices {} []).withProvider.run piledUp).search = some x ∧
        Mailbox.replay {} log = some m ∧ Shows x m ∧ log.called.getLast? = log.newest? := by
  intro log
  have few : log.issued.length < Exchange.lastId := by decide
  obtain ⟨increasing, -, -, mailbox, -⟩ :=
    worker_is_a_mailbox (Selector.ofChoices {} []) piledUp few
  obtain ⟨x, m, search, replayed, shown, -, last⟩ := mailbox
  have state : x.worker = .waiting ∧ x.unseen = [] := by
    obtain rfl := Option.some.inj search
    exact ⟨rfl, rfl⟩
  have alive : x.worker ≠ .stopped := by simp [state.1]
  exact ⟨few, by decide, by decide, by decide, increasing, x, m, search, replayed, shown alive,
    last state.1 state.2⟩

end Picklist.Select
