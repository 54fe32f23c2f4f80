import Picklist.Proofs.Select.Drain
import Picklist.Proofs.Select.Passage

/-!
# Only the newest answer counts

A pump reads answers in the order in which they were sent. An answer to an older search and one that
reports a failure leave the select list alone, wherever in the queue they stand. So the select list
after a pump is the one before it, with the candidates that the answer to the newest search brought,
if it is there and brought any.
-/

set_option autoImplicit false

namespace Picklist.Select

namespace Exchange

/-- The answer brings choices for the search that was issued last. -/
def Brings (x : Exchange) (a : Response) (options : List Choice) : Prop :=
  x.latest ≠ 0 ∧ a.id = x.latest ∧ a.outcome = .ok options

/-- The exchange with an empty queue of answers. The latest search is no longer awaited if an answer
to it was in the queue or the worker has ended. -/
def drained (x : Exchange) : Exchange :=
  { x with
    responses := []
    inFlight := x.inFlight && x.worker != .stopped && !x.responses.any (x.isLatest ·.id) }

/-- The choices that an answer brings for the search that was issued last. -/
def brought (x : Exchange) (a : Response) : Option (List Choice) :=
  if x.isLatest a.id then a.outcome.toOption else none

variable {x : Exchange} {a : Response} {options : List Choice}

/-- The new candidates are those that the answers in the queue bring. -/
theorem newOptions_eq (x : Exchange) : x.newOptions = x.responses.filterMap x.brought := rfl

/-- An answer that brings candidates is the one to the latest search. -/
theorem Brings.isLatest (h : x.Brings a options) : x.isLatest a.id = true := by
  simp [Exchange.isLatest, h.1, h.2.1]

/-- What an answer brings are the candidates in it, if it is the one to the latest search. -/
theorem brought_eq_some_iff : x.brought a = some options ↔ x.Brings a options := by
  unfold brought isLatest Brings
  cases a.outcome <;> simp [Except.toOption, and_assoc]

/-- Where no answer brings candidates there are no new ones. -/
theorem filterMap_brought_eq_nil {queue : List Response}
    (silent : ∀ b ∈ queue, ∀ other, ¬ x.Brings b other) : queue.filterMap x.brought = [] := by
  rw [List.filterMap_eq_nil_iff]
  intro b among
  rw [Option.eq_none_iff_forall_not_mem]
  intro other found
  exact silent b among other (brought_eq_some_iff.mp found)

/-- The choices of the only answer that brings any. -/
theorem newOptions_of_single {before after : List Response}
    (queue : x.responses = before ++ a :: after) (brings : x.Brings a options)
    (alone : ∀ b ∈ before ++ after, ∀ other, ¬ x.Brings b other) : x.newOptions = [options] := by
  have first : before.filterMap x.brought = [] :=
    filterMap_brought_eq_nil fun b among => alone b (List.mem_append_left _ among)
  have last : after.filterMap x.brought = [] :=
    filterMap_brought_eq_nil fun b among => alone b (List.mem_append_right _ among)
  rw [newOptions_eq, queue, List.filterMap_append, first,
    List.filterMap_cons_some (brought_eq_some_iff.mpr brings), last, List.nil_append]

/-- The exchange after the oldest answer has been read. -/
def afterRead (x : Exchange) (a : Response) (rest : List Response) : Exchange :=
  { x with responses := rest, inFlight := x.inFlight && !x.isLatest a.id }

/-- The new candidates are those that the first answer brings and those of the others. -/
theorem newOptions_afterRead {rest : List Response} (queue : x.responses = a :: rest) :
    x.newOptions = (x.brought a).toList ++ (x.afterRead a rest).newOptions := by
  have same : (x.afterRead a rest).newOptions = rest.filterMap x.brought := rfl
  rw [newOptions_eq, queue, List.filterMap_cons, same]
  cases x.brought a <;> rfl

/-- Reading the first answer does not change what the exchange is after all are read. -/
theorem drained_afterRead {rest : List Response} (queue : x.responses = a :: rest) :
    (x.afterRead a rest).drained = x.drained := by
  have sameTest : (x.afterRead a rest).isLatest = x.isLatest := rfl
  unfold drained
  rw [sameTest, queue, List.any_cons, Bool.not_or]
  simp only [afterRead, Exchange.mk.injEq, true_and, and_true]
  cases x.isLatest a.id <;> simp

/-- With an empty queue the end of the worker is noticed at once. -/
theorem drained_of_nil (queue : x.responses = []) : x.noticeStop = x.drained := by
  unfold noticeStop markIdle drained
  cases x
  simp_all only [List.any_nil, Bool.not_false, Bool.and_true]
  split <;> simp_all

end Exchange

namespace Selector

variable {s : Selector} {x : Exchange}

/-! ## Listing anew does not look at the search -/

/-- Listing anew does not look at the exchange with the worker. -/
theorem setCandidates_withSearch (s : Selector) (options : List Choice)
    (search : Option Exchange) :
    ({ s with search } : Selector).setCandidates options =
      { s.setCandidates options with search } := by
  unfold setCandidates refilter clampHighlight
  rw [applyAutoHighlight_highlighted, applyAutoHighlight_highlighted]

/-- Listing anew any number of times does not look at the exchange with the worker. -/
theorem foldl_setCandidates_withSearch (s : Selector) (lists : List (List Choice))
    (search : Option Exchange) :
    lists.foldl setCandidates { s with search } = { lists.foldl setCandidates s with search } := by
  induction lists generalizing s with
  | nil => rfl
  | cons options rest ih =>
    rw [List.foldl_cons, List.foldl_cons, setCandidates_withSearch, ih]

/-! ## A whole pump -/

/-- A turn replaces the candidates by the choices that the oldest answer brings for the newest
search, if it brings any. -/
theorem readResponse_eq (h : s.search = some x) {a : Response} {rest : List Response}
    (queue : x.responses = a :: rest) :
    s.readResponse = ((x.brought a).isSome,
      { (x.brought a).toList.foldl setCandidates s with search := some (x.afterRead a rest) }) := by
  have out := s.reading x h
  generalize s.readResponse = result at out ⊢
  generalize s.reads = new at out
  cases out with
  | empty none =>
    rw [queue] at none
    cases none
  | stale b others found older =>
    obtain ⟨rfl, rfl⟩ := List.cons.inj (queue.symm.trans found)
    have silent : x.brought a = none := if_neg (by simp [older])
    simp [silent, Exchange.afterRead, older]
  | applied b others options found latest ok =>
    obtain ⟨rfl, rfl⟩ := List.cons.inj (queue.symm.trans found)
    have brings : x.brought a = some options := by
      simp [Exchange.brought, latest, ok, Except.toOption]
    have after : x.afterRead a rest = { x with responses := rest, inFlight := false } := by
      simp [Exchange.afterRead, latest]
    have replaced := setCandidates_withSearch s options (some (x.afterRead a rest))
    rw [after] at replaced
    rw [brings, after]
    exact congrArg (Prod.mk true) replaced
  | rejected b others error found latest failed =>
    obtain ⟨rfl, rfl⟩ := List.cons.inj (queue.symm.trans found)
    have silent : x.brought a = none := by simp [Exchange.brought, failed, Except.toOption]
    simp [silent, Exchange.afterRead, latest]

/-- Reading everything replaces the candidates by the choices of each answer that brings some for
the newest search, one after the other, and by nothing else. -/
theorem readResponses_eq (h : s.search = some x) {count : Nat}
    (exactly : x.responses.length = count) :
    s.readResponses (count + 1) =
      (!x.newOptions.isEmpty,
        { x.newOptions.foldl setCandidates s with search := some x.drained }) := by
  -- There is one turn more than answers: the last finds the queue empty and looks at the worker.
  induction count generalizing s x with
  | zero =>
    have queue : x.responses = [] := List.eq_nil_of_length_eq_zero exactly
    have none : x.newOptions = [] := by rw [Exchange.newOptions_eq, queue, List.filterMap_nil]
    have turn : s.readResponse = (false, { s with search := some x.noticeStop }) := by
      simp [readResponse, h, queue]
    unfold readResponses
    rw [turn, none, ← Exchange.drained_of_nil queue]
    rfl
  | succ count ih =>
    obtain ⟨a, rest, queue⟩ := List.exists_cons_of_length_eq_add_one exactly
    have shorter : (x.afterRead a rest).responses.length = count := by
      rw [queue] at exactly
      exact Nat.succ.inj exactly
    unfold readResponses
    rw [readResponse_eq h queue]
    dsimp only
    rw [ih rfl shorter, foldl_setCandidates_withSearch, ← List.foldl_append,
      ← Exchange.newOptions_afterRead queue, Exchange.drained_afterRead queue]
    rw [Exchange.newOptions_afterRead queue]
    cases x.brought a <;> rfl

/-- A pump lists the candidates of each answer that brings some, and tells whether there was one. -/
theorem pumpResponses_eq (h : s.search = some x) :
    s.pumpResponses =
      (!x.newOptions.isEmpty,
        { x.newOptions.foldl setCandidates s with search := some x.drained }) := by
  unfold pumpResponses
  rw [responses_eq h]
  exact readResponses_eq h rfl

/-- A pump that reads no new choices for the newest search leaves everything but the exchange. -/
theorem pumpResponses_of_silent (h : s.search = some x)
    (silent : ∀ a ∈ x.responses, ∀ options, ¬ x.Brings a options) :
    s.pumpResponses = (false, { s with search := some x.drained }) := by
  rw [pumpResponses_eq h, Exchange.newOptions_eq, Exchange.filterMap_brought_eq_nil silent]
  rfl

/-- A pump that reads one answer with choices for the newest search applies just this one. -/
theorem pumpResponses_of_single (h : s.search = some x) {before after : List Response}
    {a : Response} {options : List Choice} (queue : x.responses = before ++ a :: after)
    (brings : x.Brings a options) (alone : ∀ b ∈ before ++ after, ∀ other, ¬ x.Brings b other) :
    s.pumpResponses =
      (true, { s.setCandidates options with
        search := some { x with responses := [], inFlight := false } }) := by
  have answered : x.drained = { x with responses := [], inFlight := false } := by
    have answers : x.responses.any (x.isLatest ·.id) = true := by
      rw [List.any_eq_true]
      refine ⟨a, ?_, brings.isLatest⟩
      rw [queue]
      exact List.mem_append_right _ List.mem_cons_self
    simp [Exchange.drained, answers]
  rw [pumpResponses_eq h, Exchange.newOptions_of_single queue brings alone, answered]
  rfl

end Selector

/-- On a run there is never more than one answer to a search. -/
theorem Tracked.alone {log : Log} {x : Exchange} (h : Tracked log x) {before after : List Response}
    {a : Response} {options : List Choice} (queue : x.responses = before ++ a :: after)
    (brings : x.Brings a options) : ∀ b ∈ before ++ after, ∀ other, ¬ x.Brings b other := by
  have waiting := (List.pairwise_append.mp (List.pairwise_append.mp h.ordered).2.1).1
  have distinct : (x.responses.map Response.id).Nodup := waiting.imp Nat.ne_of_lt
  rw [queue, List.map_append, List.map_cons, List.nodup_middle, ← List.map_append] at distinct
  intro b among other brought
  have same : b.id = a.id := brought.2.1.trans brings.2.1.symm
  apply (List.nodup_cons.mp distinct).1
  rw [← same]
  exact List.mem_map_of_mem among

/-- **Only the newest answer counts.** Whatever waits to be read: if no answer brings choices for
the search that was issued last, a pump says that nothing has changed, and nothing has but the flag
of the search in flight and the queue. If a single answer does, the pump says so and leaves the
select list with these choices as its candidates, listed anew, whatever answers stand before it and
behind it. On every run with a new worker that does not run out of search numbers there is a single
one. -/
theorem only_newest_answer_counts :
    (∀ s : Selector, s.search = none → s.pumpResponses = (false, s)) ∧
    (∀ (s : Selector) (x : Exchange), s.search = some x →
      (∀ a ∈ x.responses, ∀ options, ¬ x.Brings a options) →
      ∃ inFlight, (inFlight = true → x.inFlight = true) ∧
        s.pumpResponses = (false, { s with search := some { x with responses := [], inFlight } })) ∧
    (∀ (s : Selector) (x : Exchange) (before : List Response) (a : Response)
      (after : List Response) (options : List Choice), s.search = some x →
      x.responses = before ++ a :: after → x.Brings a options →
      (∀ b ∈ before ++ after, ∀ other, ¬ x.Brings b other) →
      s.pumpResponses =
        (true, { s.setCandidates options with
          search := some { x with responses := [], inFlight := false } })) ∧
    ∀ (s : Selector) (steps : List Step),
      (s.withProvider.log steps).issued.length < Exchange.lastId →
      let t := s.withProvider.run steps
      ∃ x, t.search = some x ∧ ∀ a ∈ x.responses, ∀ options, x.Brings a options →
        t.pumpResponses =
          (true, { t.setCandidates options with
            search := some { x with responses := [], inFlight := false } }) := by
  refine ⟨?detached, ?silent, ?single, ?reached⟩
  case detached =>
    intro s detached
    simp [Selector.pumpResponses, Selector.readResponses, Selector.readResponse,
      Selector.responses, detached]
  case silent =>
    intro s x search silent
    refine ⟨x.drained.inFlight, ?_, Selector.pumpResponses_of_silent search silent⟩
    intro awaited
    exact (Bool.and_eq_true_iff.mp (Bool.and_eq_true_iff.mp awaited).1).1
  case single =>
    intro s x before a after options search queue brings alone
    exact Selector.pumpResponses_of_single search queue brings alone
  case reached =>
    intro s steps few t
    obtain ⟨x, search, tracked⟩ := Tracked.of_moves (Moves.of_run rfl steps) rfl few
    refine ⟨x, search, fun a among options brings => ?_⟩
    obtain ⟨before, after, queue⟩ := List.append_of_mem among
    exact Selector.pumpResponses_of_single search queue brings (tracked.alone queue brings)

/-- The answers to two searches wait to be read. The first was overtaken, the second is newest. -/
def bothAnswered : List Step :=
  [.operation (.setQuery "a" 0), .worker .receive, .worker .examine,
    .operation (.setQuery "ab" 1), .worker (.answer (.ok [.ofLabel "Apple"])), .worker .receive,
    .worker .examine, .worker (.answer (.ok [.ofLabel "Abacus", .ofLabel "Drab"]))]

/-- Of the two answers the pump applies the second. It does so between failures of older searches as
well, and these alone change nothing. -/
theorem only_newest_answer_counts_overtaken :
    let t := (Selector.ofChoices {} [.ofLabel "Abc"]).withProvider.run bothAnswered
    let newest : Response := ⟨2, "ab", .ok [.ofLabel "Abacus", .ofLabel "Drab"]⟩
    let failed : Response := ⟨1, "a", .error (.rejected "no")⟩
    let x : Exchange := { latest := 2, inFlight := true, responses := [failed, newest, failed] }
    let y : Exchange := { latest := 2, inFlight := true, responses := [failed] }
    let u : Selector := { t with search := some x }
    let v : Selector := { t with search := some y }
    t.filtered = [.ofLabel "Abc"] ∧ t.pumpResponses.1 = true ∧
      t.pumpResponses.2.filtered = [.ofLabel "Abacus", .ofLabel "Drab"] ∧
      u.pumpResponses =
        (true, { u.setCandidates [.ofLabel "Abacus", .ofLabel "Drab"] with
          search := some { x with responses := [], inFlight := false } }) ∧
      v.pumpResponses.1 = false ∧ v.pumpResponses.2.filtered = v.filtered := by
  intro t newest failed x y u v
  obtain ⟨-, silent, single, reached⟩ := only_newest_answer_counts
  have few : ((Selector.ofChoices {} [.ofLabel "Abc"]).withProvider.log
      bothAnswered).issued.length < Exchange.lastId := by decide
  have nothing (z : Exchange) (b : Response) (among : b ∈ [failed]) (other : List Choice) :
      ¬ z.Brings b other := by
    rw [List.mem_singleton.mp among]
    exact fun brings => nomatch brings.2.2
  refine ⟨by decide +kernel, ?_⟩
  have waits : t.search = some { latest := 2, inFlight := true, responses :=
      [⟨1, "a", .ok [.ofLabel "Apple"]⟩, newest] } := rfl
  obtain ⟨z, search, applied⟩ := reached (Selector.ofChoices {} [.ofLabel "Abc"]) bothAnswered few
  obtain rfl := Option.some.inj (waits.symm.trans search)
  have pumped := applied newest (by simp) _ ⟨by decide, rfl, rfl⟩
  obtain ⟨inFlight, -, kept⟩ := silent v y rfl (nothing y)
  refine ⟨by rw [pumped], ?_, ?_, by rw [kept], by rw [kept]⟩
  · rw [pumped]
    decide +kernel
  · apply single u x [failed] newest [failed] _ rfl rfl ⟨by decide, rfl, rfl⟩
    exact fun b among => nothing x b (by simpa using among)

end Picklist.Select
