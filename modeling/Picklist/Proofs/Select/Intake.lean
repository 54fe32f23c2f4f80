import Picklist.Proofs.Select.Move

/-!
# What the exchange takes in

A search is issued when the exchange takes it in: its number becomes the latest one, and unless the
worker has ended it is put at the end of the queue. The log of a run says of every operation which
searches the exchange takes in, no more and no fewer, so after a run the exchange has counted the
searches of the log, and its queue holds some of them in their order.
-/

set_option autoImplicit false

namespace Picklist.Select

namespace Exchange

/-- The second exchange is the first after it has taken in the given searches. -/
structure TakesIn (x : Exchange) (issued : List Request) (y : Exchange) : Prop where
  /-- There is one at the most, with the next number. -/
  next : issued = [] ∨ ∃ query previous, issued = [x.nextRequest query previous]
  /-- Its number is the latest. -/
  latest : y.latest = (issued.getLast?.map Request.id).getD x.latest
  /-- It stands at the end of the queue, unless the worker has ended. -/
  requests : y.requests = x.requests ++ if x.worker = .stopped then [] else issued

/-- An exchange with the same queue and the same latest number has taken in nothing. -/
theorem TakesIn.nothing {x y : Exchange} (latest : y.latest = x.latest)
    (requests : y.requests = x.requests) : x.TakesIn [] y where
  next := .inl rfl
  latest := latest
  requests := by rw [requests, ite_self, List.append_nil]

/-- What comes after taking in may leave the queue and the latest number alone. -/
theorem TakesIn.keep {x y z : Exchange} {issued : List Request} (h : x.TakesIn issued y)
    (latest : z.latest = y.latest) (requests : z.requests = y.requests) : x.TakesIn issued z where
  next := h.next
  latest := latest.trans h.latest
  requests := requests.trans h.requests

/-- Issuing a search takes in that search. -/
theorem takesIn_issue (x : Exchange) (query : String) (previous : List Choice) :
    x.TakesIn [x.nextRequest query previous] (x.issue query previous) := by
  unfold issue
  cases worker : x.worker with
  | stopped => exact ⟨.inr ⟨query, previous, rfl⟩, rfl, by simp [worker]⟩
  | waiting => exact ⟨.inr ⟨query, previous, rfl⟩, rfl, by simp [worker]⟩
  | answering r => exact ⟨.inr ⟨query, previous, rfl⟩, rfl, by simp [worker]⟩

/-- The exchange has taken in the given searches and no others: it has counted them, and its queue
holds some of them in their order. -/
structure HasTaken (x : Exchange) (issued : List Request) : Prop where
  latest : x.latest = min issued.length lastId
  requests : x.requests.Sublist issued

/-- A new exchange has taken in nothing. -/
theorem HasTaken.new : HasTaken {} [] where
  latest := rfl
  requests := List.Sublist.refl []

/-- What is taken in is counted and queued behind the others. -/
theorem HasTaken.takeIn {x y : Exchange} {issued new : List Request} (h : x.HasTaken issued)
    (taken : x.TakesIn new y) : y.HasTaken (issued ++ new) where
  latest := by
    have counted := h.latest
    rw [taken.latest, List.length_append]
    rcases taken.next with rfl | ⟨query, previous, rfl⟩
    · exact counted
    · show min (x.latest + 1) lastId = min (issued.length + 1) lastId
      omega
  requests := by
    have queued : (if x.worker = .stopped then [] else new).Sublist new := by
      split
      · exact List.nil_sublist new
      · exact List.Sublist.refl new
    rw [taken.requests]
    exact h.requests.append queued

/-- The worker takes requests out of the queue and puts none in. -/
theorem HasTaken.work {x : Exchange} {issued : List Request} (h : x.HasTaken issued)
    (move : WorkerMove) : (x.work move).HasTaken issued := by
  have out := x.turn move
  generalize x.workEvents move = new at out
  generalize x.work move = after at out ⊢
  cases out with
  | received r rest waiting free queue =>
    refine ⟨h.latest, ?_⟩
    have kept := h.requests
    rw [queue] at kept
    exact (List.sublist_cons_self r rest).trans kept
  | stopped => exact ⟨h.latest, List.nil_sublist issued⟩
  | _ => exact ⟨h.latest, h.requests⟩

end Exchange

namespace Selector

variable {s : Selector} {x : Exchange}

/-! ## Operations -/

/-- A turn of a pump leaves the queue and the latest number alone. -/
theorem search_readResponse (h : s.search = some x) :
    ∃ y, s.readResponse.2.search = some y ∧ y.latest = x.latest ∧ y.requests = x.requests := by
  have out := s.reading x h
  generalize s.reads = new at out
  generalize s.readResponse = after at out ⊢
  cases out with
  | empty =>
    refine ⟨x.noticeStop, rfl, ?_⟩
    unfold Exchange.noticeStop
    split <;> exact ⟨rfl, rfl⟩
  | applied => exact ⟨_, refilter_search _, rfl, rfl⟩
  | _ => exact ⟨_, rfl, rfl, rfl⟩

/-- Turns of a pump leave the queue and the latest number alone. -/
theorem search_readResponses (h : s.search = some x) (turns : Nat) :
    ∃ y, (s.readResponses turns).2.search = some y ∧ y.latest = x.latest ∧
      y.requests = x.requests := by
  induction turns generalizing s x with
  | zero => exact ⟨x, h, rfl, rfl⟩
  | succ turns ih =>
    obtain ⟨y, search, latest, requests⟩ := search_readResponse h
    obtain ⟨z, later, kept, same⟩ := ih search
    exact ⟨z, later, kept.trans latest, same.trans requests⟩

/-- The exchange takes in what handing on issues. -/
theorem takesIn_issueDueSearch (h : s.search = some x) (now : Nat) :
    ∃ y, (s.issueDueSearch now).search = some y ∧ x.TakesIn (s.issues now).issued y := by
  have out := s.handingOn x now h
  generalize s.issueDueSearch now = after at out ⊢
  generalize s.issues now = new at out ⊢
  cases out with
  | issued held => exact ⟨_, rfl, x.takesIn_issue held.value s.candidates⟩
  | early => exact ⟨x, h, .nothing rfl rfl⟩

/-- No answer that is read is a search. -/
theorem issued_reads (s : Selector) : s.reads.issued = [] := by
  unfold reads
  cases s.responses.head? <;> rfl

/-- Reading a number of times issues nothing. -/
theorem issued_manyReads (s : Selector) (turns : Nat) : (s.manyReads turns).issued = [] := by
  induction turns generalizing s with
  | zero => rfl
  | succ turns ih => rw [manyReads, Log.issued_append_of_nil (ih _), issued_reads]

/-- The exchange takes in what an operation issues. -/
theorem takesIn_perform (h : s.search = some x) (operation : Operation) :
    ∃ y, (s.perform operation).search = some y ∧
      x.TakesIn (s.operationEvents operation).issued y := by
  cases operation with
  | setQuery query now =>
    have kept : ((s.changeQuery query).scheduleSearch now).search = some x :=
      (refilter_search _).trans h
    have same : s.perform (.setQuery query now) =
        ((s.changeQuery query).scheduleSearch now).issueDueSearch now :=
      if_pos (congrArg Option.isSome kept)
    rw [same]
    exact takesIn_issueDueSearch kept now
  | tick now =>
    obtain ⟨y, issued, taken⟩ := takesIn_issueDueSearch h now
    obtain ⟨z, after, latest, requests⟩ := search_readResponses issued _
    have silent : (s.issueDueSearch now).pumpEvents.issued = [] := issued_manyReads _ _
    refine ⟨z, after, ?_⟩
    rw [operationEvents, Log.issued_append_of_nil silent]
    exact taken.keep latest requests
  | handOn now => exact takesIn_issueDueSearch h now
  | pump =>
    obtain ⟨y, after, latest, requests⟩ := search_readResponses h _
    refine ⟨y, after, ?_⟩
    rw [operationEvents, pumpEvents, issued_manyReads]
    exact .nothing latest requests
  | read =>
    obtain ⟨y, after, latest, requests⟩ := search_readResponse h
    refine ⟨y, after, ?_⟩
    rw [operationEvents, issued_reads]
    exact .nothing latest requests
  | setCandidates candidates => exact ⟨x, (refilter_search _).trans h, .nothing rfl rfl⟩
  | _ => exact ⟨x, (s.sameSearch_perform rfl).search.trans h, .nothing rfl rfl⟩

/-! ## Runs -/

/-- A move of the worker issues nothing. -/
theorem issued_workEvents (s : Selector) (move : WorkerMove) : (s.workEvents move).issued = [] := by
  unfold workEvents
  split
  · rename_i x _
    have out := x.turn move
    generalize x.workEvents move = new at out ⊢
    generalize x.work move = after at out
    cases out <;> rfl
  · rfl

/-- The exchange goes on to take in what a step issues. -/
theorem hasTaken_step {issued : List Request} (h : s.search = some x) (taken : x.HasTaken issued)
    (step : Step) :
    ∃ y, (s.step step).search = some y ∧ y.HasTaken (issued ++ (s.events step).issued) := by
  cases step with
  | operation operation =>
    obtain ⟨y, after, new⟩ := takesIn_perform h operation
    exact ⟨y, after, taken.takeIn new⟩
  | worker move =>
    refine ⟨x.work move, congrArg (Option.map (Exchange.work · move)) h, ?_⟩
    rw [events, issued_workEvents, List.append_nil]
    exact taken.work move

/-- After a run the exchange has taken in what the log says was issued. -/
theorem hasTaken_run {issued : List Request} (h : s.search = some x) (taken : x.HasTaken issued)
    (steps : List Step) :
    ∃ y, (s.run steps).search = some y ∧ y.HasTaken (issued ++ (s.log steps).issued) := by
  induction steps generalizing s x issued with
  | nil => exact ⟨x, h, by rwa [log, Log.issued, List.filterMap_nil, List.append_nil]⟩
  | cons step rest ih =>
    obtain ⟨y, after, more⟩ := hasTaken_step h taken step
    obtain ⟨z, ends, all⟩ := ih after more
    refine ⟨z, ends, ?_⟩
    rw [log, Log.issued_append, ← List.append_assoc]
    exact all

end Selector

end Picklist.Select
