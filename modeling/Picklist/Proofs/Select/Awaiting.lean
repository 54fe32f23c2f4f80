import Picklist.Proofs.Select.Drain
import Picklist.Proofs.Select.Passage

/-!
# No search is lost

While the worker lives, an answer is awaited exactly as long as the newest search has not had its
answer read, and the newest search is then in one place: not looked at by the worker, at the
provider, or among the waiting answers. Both the worker and the reader drop searches, but never the
newest one. When the worker has ended, the next pump reads what it has sent, and nothing is awaited
any more.
-/

set_option autoImplicit false

namespace Picklist.Select

/-! ## While the worker lives -/

namespace Tracked

variable {log : Log} {x : Exchange}

/-- An answer is awaited while the newest search has not had its answer read. -/
theorem inFlight_iff (h : Tracked log x) (alive : x.worker ≠ .stopped) :
    x.inFlight = true ↔
      ∃ newest, log.newest? = some newest ∧
        newest.id ∉ log.reads.map Response.id := by
  rw [h.awaited alive]
  constructor
  · intro onTheWay
    have bounds := h.passage_bounds (List.mem_append_right _ onTheWay)
    obtain ⟨newest, last⟩ := h.exists_newest (by omega)
    refine ⟨newest, last, ?_⟩
    intro wasRead
    have before := (List.pairwise_append.mp h.ordered).2.2 _ wasRead _ onTheWay
    have latest := h.newest_id last
    omega
  · rintro ⟨newest, last, unread⟩
    have latest := h.newest_id last
    have bounds := h.id_bounds (List.mem_of_getLast? last)
    rw [latest] at unread
    have here := h.present alive (by omega)
    exact (List.mem_append.mp here).resolve_left unread

/-- The requests that the worker has taken or will take with the number of an issued search are that
search. -/
theorem count_id (h : Tracked log x) {newest : Request} (issued : newest ∈ log.issued)
    {requests : List Request} (asked : ∀ r ∈ requests, r ∈ log.issued) :
    (requests.map Request.id).count newest.id = requests.count newest := by
  induction requests with
  | nil => rfl
  | cons r rest ih =>
    have tail := ih (fun q mem => asked q (List.mem_cons_of_mem r mem))
    have same : r.id = newest.id ↔ r = newest :=
      ⟨h.eq_of_id_eq (asked r List.mem_cons_self) issued, fun eq => congrArg Request.id eq⟩
    rw [List.map_cons, List.count_cons, List.count_cons, tail]
    simp only [beq_iff_eq, same]

/-- An awaited search is in one place. -/
theorem one_place (h : Tracked log x) (alive : x.worker ≠ .stopped) (awaited : x.inFlight = true) :
    ∃ newest, log.newest? = some newest ∧
      x.unseen.count newest + (if x.worker = .answering newest then 1 else 0) +
        (x.responses.map Response.id).count newest.id = 1 := by
  have onTheWay := (h.awaited alive).mp awaited
  have bounds := h.passage_bounds (List.mem_append_right _ onTheWay)
  obtain ⟨newest, last⟩ := h.exists_newest (by omega)
  refine ⟨newest, last, ?_⟩
  have issued : newest ∈ log.issued := List.mem_of_getLast? last
  have ordered := (List.pairwise_append.mp h.ordered).2.1
  have once : x.line.count newest.id = 1 := by
    have distinct : x.line.Nodup := ordered.imp Nat.ne_of_lt
    rw [h.newest_id last, distinct.count, if_pos onTheWay]
  have provider : x.answering?.toList.count newest =
      if x.worker = .answering newest then 1 else 0 := by
    unfold Exchange.answering?
    cases x.worker <;> simp [List.count_singleton]
  unfold Exchange.line at once
  rw [List.count_append, h.count_id issued h.requested] at once
  unfold Exchange.asked at once
  rw [List.count_append, provider] at once
  omega

end Tracked

/-- The worker never passes over the newest search. -/
theorem Moves.skipped_older {s t : Selector} {log : Log} (moves : Moves s log t)
    (fresh : s.search = some {}) (few : log.issued.length < Exchange.lastId)
    {earlier later : Log} {r : Request} (split : log = earlier ++ .skipped r :: later) :
    ∃ newest, earlier.newest? = some newest ∧ r.id < newest.id := by
  obtain ⟨u, v, x, search, tracked, here, -⟩ := Tracked.at_event moves fresh few split
  cases here with
  | handOn _ out => cases out
  | read _ _ out => cases out
  | work found out =>
    obtain rfl : x = _ := Option.some.inj (search.symm.trans found)
    cases out with
    | skipped _ waiting taken older =>
      have issued : r ∈ earlier.issued := by
        apply tracked.requested
        simp [Exchange.asked, Exchange.unseen, taken]
      have bounds := tracked.id_bounds issued
      obtain ⟨newest, last⟩ := tracked.exists_newest (by omega)
      have latest := tracked.newest_id last
      exact ⟨newest, last, by omega⟩

/-! ## When the worker has ended -/

/-- A move does not bring the worker back, and awaits nothing from it: what was not awaited before
is not awaited after, and after a search is issued nothing is. -/
theorem Move.stopped {s t : Selector} {new : Log} {x : Exchange} (move : Move s new t)
    (h : s.search = some x) (stopped : x.worker = .stopped) :
    ∃ y, t.search = some y ∧ y.worker = .stopped ∧
      (y.inFlight = true → x.inFlight = true ∧ new.issued = []) := by
  cases move with
  | quiet same => exact ⟨x, same.search.trans h, stopped, fun awaited => ⟨awaited, rfl⟩⟩
  | replace candidates =>
    exact ⟨x, (Selector.refilter_search _).trans h, stopped, fun awaited => ⟨awaited, rfl⟩⟩
  | retype query now =>
    exact ⟨x, (Selector.refilter_search _).trans h, stopped, fun awaited => ⟨awaited, rfl⟩⟩
  | handOn found out =>
    obtain rfl : x = _ := Option.some.inj (h.symm.trans found)
    cases out with
    | issued held waits due => exact ⟨_, rfl, by simp [Exchange.issue, stopped]⟩
    | early waits => exact ⟨x, h, stopped, fun awaited => ⟨awaited, rfl⟩⟩
  | read found same out =>
    obtain rfl : x = _ := Option.some.inj (h.symm.trans found)
    obtain ⟨y, search, -, worker, -, kept⟩ := Selector.readResponse_search h
    rw [same] at search
    refine ⟨y, search, worker.trans stopped, fun awaited => ⟨kept awaited, ?_⟩⟩
    cases out <;> rfl
  | work found out =>
    obtain rfl : x = _ := Option.some.inj (h.symm.trans found)
    cases out with
    | idle => exact ⟨x, rfl, stopped, fun awaited => ⟨awaited, rfl⟩⟩
    | received r rest waiting => simp [stopped] at waiting
    | called r waiting => simp [stopped] at waiting
    | skipped r waiting => simp [stopped] at waiting
    | answered r outcome busy => simp [stopped] at busy
    | stopped => exact ⟨_, rfl, rfl, fun awaited => ⟨awaited, rfl⟩⟩

/-- Moves do not bring the worker back, and await nothing from it. -/
theorem Moves.stopped {s t : Selector} {log : Log} {x : Exchange} (moves : Moves s log t)
    (h : s.search = some x) (stopped : x.worker = .stopped) :
    ∃ y, t.search = some y ∧ y.worker = .stopped ∧
      (y.inFlight = true → x.inFlight = true ∧ log.issued = []) := by
  induction moves with
  | refl => exact ⟨x, h, stopped, fun awaited => ⟨awaited, rfl⟩⟩
  | tail _ move ih =>
    obtain ⟨y, search, ended, before⟩ := ih
    obtain ⟨z, found, still, after⟩ := move.stopped search ended
    refine ⟨z, found, still, fun awaited => ?_⟩
    obtain ⟨earlier, silent⟩ := after awaited
    obtain ⟨first, quiet⟩ := before earlier
    exact ⟨first, by rw [Log.issued_append_of_nil silent, quiet]⟩

/-- The answer with the newest number is applied by a pump if it brought choices. -/
theorem Tracked.newOptions_getLast? {log : Log} {x : Exchange} (h : Tracked log x) {a : Response}
    {newest : Request} {options : List Choice} (queued : a ∈ x.responses)
    (last : log.newest? = some newest) (same : a.id = newest.id)
    (ok : a.outcome = .ok options) : x.newOptions.getLast? = some options := by
  have latest : x.isLatest a.id = true := by
    rw [h.isLatest_response queued, same, h.newest_id last]
  have mem : options ∈ x.newOptions :=
    List.mem_filterMap.mpr ⟨a, queued, by simp [latest, ok, Except.toOption]⟩
  have distinct : (x.responses.map Response.id).Nodup := by
    have ordered := (List.pairwise_append.mp h.ordered).2.1
    unfold Exchange.line at ordered
    exact (List.pairwise_append.mp ordered).1.imp Nat.ne_of_lt
  have only : ∀ other ∈ x.newOptions, other = options := by
    intro other written
    obtain ⟨b, waits, value⟩ := List.mem_filterMap.mp written
    split at value
    · rename_i newer
      have sameId : b.id = a.id := by
        rw [(h.isLatest_response waits).mp newer, same, h.newest_id last]
      obtain rfl := List.inj_on_of_nodup_map distinct waits queued sameId
      simpa [ok, Except.toOption] using value.symm
    · cases value
  obtain ⟨other, found⟩ := Option.isSome_iff_exists.mp
    (List.getLast?_isSome.mpr (List.ne_nil_of_mem mem))
  rw [found, only other (List.mem_of_getLast? found)]

/-! ## On whole runs -/

/-- **No search is lost, and the flag never sticks.** On every run with a new worker that does not
run out of search numbers:

while the worker lives, an answer is awaited exactly if there is a newest search whose answer has
not been read, and that search is then in one place: with the worker or in its queue and not looked
at, at the provider, or among the waiting answers;

the worker passes only over requests that are older than the newest one;

when the worker has ended, a pump reads everything that was sent and not read, the answer to the
newest search becomes the candidates if it is there and brought choices, and afterwards nothing is
ever awaited; nor is anything awaited after a step that issues a search. -/
theorem no_search_is_lost (s : Selector) (steps : List Step)
    (few : (s.withProvider.log steps).issued.length < Exchange.lastId) :
    ∃ x, (s.withProvider.run steps).search = some x ∧
      (x.worker ≠ .stopped →
        (x.inFlight = true ↔
          ∃ newest, (s.withProvider.log steps).newest? = some newest ∧
            newest.id ∉ (s.withProvider.log steps).reads.map Response.id) ∧
        (x.inFlight = true →
          ∃ newest, (s.withProvider.log steps).newest? = some newest ∧
            x.unseen.count newest + (if x.worker = .answering newest then 1 else 0) +
              (x.responses.map Response.id).count newest.id = 1)) ∧
      (∀ (earlier : Log) r later, s.withProvider.log steps = earlier ++ .skipped r :: later →
        ∃ newest, earlier.newest? = some newest ∧ r.id < newest.id) ∧
      (x.worker = .stopped →
        Log.reads (s.withProvider.log steps ++ (s.withProvider.run steps).pumpEvents) =
          (s.withProvider.log steps).sent ∧
        (∀ a ∈ x.responses, ∀ newest options,
          (s.withProvider.log steps).newest? = some newest → a.id = newest.id →
          a.outcome = .ok options →
          (s.withProvider.run steps).pumpResponses.1 = true ∧
            (s.withProvider.run steps).pumpResponses.2.candidates = options) ∧
        (∀ more, ((s.withProvider.run steps).pumpResponses.2.run more).isAwaiting = false) ∧
        (∀ more step, Log.issued (((s.withProvider.run steps).run more).events step) ≠ [] →
          (((s.withProvider.run steps).run more).step step).isAwaiting = false)) := by
  have moves := Moves.of_run (s := s.withProvider) rfl steps
  obtain ⟨x, search, tracked⟩ := Tracked.of_moves moves rfl few
  have provided : (s.withProvider.run steps).search.isSome := by rw [search]; rfl
  refine ⟨x, search, ?alive, ?skips, ?ended⟩
  case alive =>
    intro alive
    exact ⟨tracked.inFlight_iff alive, tracked.one_place alive⟩
  case skips =>
    intro earlier r later split
    exact moves.skipped_older rfl few split
  case ended =>
    intro stopped
    refine ⟨?_, ?_, ?_, ?_⟩
    · rw [Log.reads_append, Selector.reads_pumpEvents search, tracked.queued]
    · intro a queued newest options last same ok
      obtain ⟨candidates, said⟩ := Selector.pumpResponses_candidates search
      have applied := tracked.newOptions_getLast? queued last same ok
      rw [applied] at candidates
      refine ⟨?_, candidates⟩
      rw [said, Bool.not_eq_true', List.isEmpty_eq_false_iff]
      exact List.ne_nil_of_mem (List.mem_of_getLast? applied)
    · intro more
      have pump := Moves.of_pump provided
      obtain ⟨y, pumped, still, -⟩ := pump.stopped search stopped
      have idle := Selector.pumpResponses_stopped search stopped
      have rest := Moves.of_run (pump.isSome_search provided) more
      obtain ⟨z, last, -, kept⟩ := rest.stopped pumped still
      rw [Selector.isAwaiting_eq pumped] at idle
      rw [Selector.isAwaiting_eq last, Bool.eq_false_iff]
      intro awaited
      rw [(kept awaited).1] at idle
      cases idle
    · intro more step issued
      have run := Moves.of_run provided more
      obtain ⟨y, late, still, -⟩ := run.stopped search stopped
      have one := Moves.of_step (run.isSome_search provided) step
      obtain ⟨z, last, -, kept⟩ := one.stopped late still
      rw [Selector.isAwaiting_eq last, Bool.eq_false_iff]
      intro awaited
      exact issued (kept awaited).2

/-- The worker ends after answering the first of two queries, before it looks at the second. -/
def orphaned : List Step :=
  [.operation (.setQuery "a" 0), .worker .receive, .worker .examine,
    .worker (.answer (.ok [.ofLabel "Apple"])), .operation (.setQuery "ab" 1), .worker .receive,
    .worker .stop]

/-- The pump after the end reads the answer that was sent, and nothing is awaited then or later. -/
theorem no_search_is_lost_orphaned :
    ((Selector.ofChoices {} []).withProvider.log orphaned).issued.length < Exchange.lastId ∧
      ((Selector.ofChoices {} []).withProvider.run orphaned).isAwaiting = true ∧
      ((Selector.ofChoices {} []).withProvider.log orphaned).sent.map Response.id = [1] ∧
      Log.reads ((Selector.ofChoices {} []).withProvider.log orphaned ++
          ((Selector.ofChoices {} []).withProvider.run orphaned).pumpEvents) =
        ((Selector.ofChoices {} []).withProvider.log orphaned).sent ∧
      ∀ more, Selector.isAwaiting
        (((Selector.ofChoices {} []).withProvider.run orphaned).pumpResponses.2.run more) =
          false := by
  have few : ((Selector.ofChoices {} []).withProvider.log orphaned).issued.length <
      Exchange.lastId := by decide
  obtain ⟨x, search, -, -, ended⟩ := no_search_is_lost (Selector.ofChoices {} []) orphaned few
  have stopped : x.worker = .stopped := by
    obtain rfl := Option.some.inj search
    rfl
  obtain ⟨reads, -, idle, -⟩ := ended stopped
  exact ⟨few, rfl, rfl, reads, idle⟩

end Picklist.Select
