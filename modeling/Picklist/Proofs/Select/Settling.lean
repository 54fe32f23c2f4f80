import Picklist.Proofs.Select.Awaiting
import Picklist.Proofs.Select.LastQuery

/-!
# Settled searches

Once a query was typed, the normalized query is the one that waits for its quiet period, or else the
one of the newest search. So when nothing waits and nothing is awaited from a live worker, the
newest search asked for the query on screen, its answer has been read, and choices that it brought
are the candidates unless the caller replaced them since.
-/

set_option autoImplicit false

namespace Picklist.Select

/-- The normalized query waits for its quiet period or is that of the newest search. -/
def Asked (log : Log) (s : Selector) : Prop :=
  (∃ held, s.pendingSearch.pending = some held ∧ held.value = s.normalizedQuery) ∨
    (s.pendingSearch.pending = none ∧
      ∃ newest, log.newest? = some newest ∧ newest.query = s.normalizedQuery)

namespace Asked

variable {log new : Log} {s t : Selector}

/-- What concerns neither the waiting query nor the searches leaves the query asked for. -/
theorem congr (h : Asked log s) (pending : t.pendingSearch = s.pendingSearch)
    (query : t.normalizedQuery = s.normalizedQuery) (silent : new.issued = []) :
    Asked (log ++ new) t := by
  have newest : Log.newest? (log ++ new) = log.newest? := by
    unfold Log.newest?
    rw [Log.issued_append_of_nil silent]
  unfold Asked
  rw [pending, query, newest]
  exact h

/-- A query that was just typed waits, so it is asked for. -/
theorem retype (log : Log) (s : Selector) (query : String) (now : Nat) :
    Asked log ((s.changeQuery query).scheduleSearch now) :=
  .inl ⟨_, rfl, rfl⟩

/-- No move loses the query that is asked for. -/
theorem move (h : Asked log s) (move : Move s new t) : Asked (log ++ new) t := by
  cases move with
  | quiet same => exact h.congr same.pendingSearch same.normalizedQuery rfl
  | replace candidates =>
    exact h.congr (Selector.refilter_pendingSearch _) (Selector.refilter_normalizedQuery _) rfl
  | retype query now => exact retype _ s query now
  | @handOn _ x _ _ _ out =>
    cases out with
    | issued held waits due =>
      right
      refine ⟨rfl, x.nextRequest held.value s.candidates, ?_, ?_⟩
      · unfold Log.newest?
        rw [Log.issued_append]
        exact List.getLast?_concat
      · rcases h with ⟨other, waiting, asked⟩ | ⟨none, -⟩
        · rw [waits, Option.some.injEq] at waiting
          rw [waiting]
          exact asked
        · rw [waits] at none
          cases none
    | early => exact h.congr rfl rfl rfl
  | read _ _ out =>
    cases out with
    | empty => exact h.congr rfl rfl rfl
    | stale => exact h.congr rfl rfl rfl
    | applied =>
      exact h.congr (Selector.refilter_pendingSearch _) (Selector.refilter_normalizedQuery _) rfl
    | rejected => exact h.congr rfl rfl rfl
  | work _ out => cases out <;> exact h.congr rfl rfl rfl

/-- Once a query was typed, the last one stays asked for. -/
theorem of_moves {query : String} (moves : Moves s log t) (typed : .typed query ∈ log) :
    Asked log t := by
  induction moves with
  | refl => cases typed
  | @tail t u log new _ move ih =>
    rcases List.mem_append.mp typed with before | here
    · exact (ih before).move move
    · cases move with
      | quiet => simp at here
      | replace => simp at here
      | retype query now => exact retype _ t query now
      | handOn _ out => cases out <;> simp at here
      | read _ _ out => cases out <;> simp at here
      | work _ out => cases out <;> simp at here

/-- When no query waits the newest search asked for the normalized query. -/
theorem newest (h : Asked log s) (waiting : s.pendingSearch.pending = none) :
    ∃ newest, log.newest? = some newest ∧ newest.query = s.normalizedQuery := by
  rcases h with ⟨held, waits, -⟩ | ⟨-, found⟩
  · rw [waiting] at waits
    cases waits
  · exact found

end Asked

/-- A run that types a query says so in its log. -/
theorem Log.exists_typed {query : String} {now : Nat} {steps : List Step} (s : Selector)
    (mem : .operation (.setQuery query now) ∈ steps) : ∃ typed, .typed typed ∈ s.log steps := by
  induction steps generalizing s with
  | nil => cases mem
  | cons step rest ih =>
    rcases List.mem_cons.mp mem with here | later
    · subst here
      exact ⟨_, List.mem_append_left _ List.mem_cons_self⟩
    · obtain ⟨typed, said⟩ := ih (s.step step) later
      exact ⟨typed, List.mem_append_right _ said⟩

/-- An answer that was read was read at some point of the log. -/
theorem Log.exists_split_of_mem_reads {log : Log} {a : Response} (mem : a ∈ log.reads) :
    ∃ earlier state later, log = earlier ++ .read a state :: later := by
  obtain ⟨e, said, value⟩ := List.mem_filterMap.mp mem
  obtain ⟨earlier, later, split⟩ := List.append_of_mem said
  cases e with
  | read b state =>
    obtain rfl : b = a := by simpa using value
    exact ⟨earlier, state, later, split⟩
  | _ => simp at value

/-- Nothing is read after the answer to the newest search. -/
theorem Tracked.reads_after_newest {log earlier later : Log} {x : Exchange} {a : Response}
    {state : Selector} (h : Tracked log x) (split : log = earlier ++ .read a state :: later)
    (newest : a.id = x.latest) : later.reads = [] := by
  have order := (List.pairwise_append.mp h.ordered).1
  have reads : log.reads = earlier.reads ++ a :: later.reads := by
    rw [split, Log.reads_append]
    rfl
  rw [reads, List.map_append, List.map_cons] at order
  have behind := (List.pairwise_cons.mp (List.pairwise_append.mp order).2.1).1
  rw [List.eq_nil_iff_forall_not_mem]
  intro b mem
  have after := behind b.id (List.mem_map_of_mem mem)
  have passed : b.id ∈ passage log x := by
    refine List.mem_append_left _ (List.mem_map_of_mem ?_)
    rw [reads]
    exact List.mem_append_right _ (List.mem_cons_of_mem a mem)
  have bounds := h.passage_bounds passed
  omega

/-- Where nothing was read and the caller replaced nothing, no list was written. -/
theorem Log.written_eq_nil {log : Log} (unread : log.reads = [])
    (kept : ∀ candidates, .replaced candidates ∉ log) : log.written = [] := by
  rw [List.eq_nil_iff_forall_not_mem]
  intro candidates mem
  obtain ⟨e, said, value⟩ := List.mem_filterMap.mp mem
  cases e with
  | read a state =>
    have wasRead : a ∈ log.reads := List.mem_filterMap.mpr ⟨_, said, rfl⟩
    rw [unread] at wasRead
    cases wasRead
  | replaced other => exact kept other said
  | _ => simp at value

/-- A search whose answer is not awaited any more from a live worker has had it read. -/
theorem Tracked.exists_read_newest {log : Log} {x : Exchange} {newest : Request}
    (h : Tracked log x) (alive : x.worker ≠ .stopped) (idle : x.inFlight = false)
    (last : log.newest? = some newest) :
    ∃ earlier a state later, log = earlier ++ .read a state :: later ∧ a.id = newest.id ∧
      a.query = newest.query := by
  have wasRead : newest.id ∈ log.reads.map Response.id := by
    by_contra unread
    have awaited := (h.inFlight_iff alive).mpr ⟨newest, last, unread⟩
    rw [idle] at awaited
    cases awaited
  obtain ⟨a, mem, same⟩ := List.mem_map.mp wasRead
  obtain ⟨earlier, state, later, split⟩ := Log.exists_split_of_mem_reads mem
  have sent : a ∈ log.sent := by
    rw [h.queued]
    exact List.mem_append_left _ mem
  obtain ⟨r, issued, sameId, sameQuery⟩ := h.answered a sent
  have only : r = newest :=
    h.eq_of_id_eq issued (List.mem_of_getLast? last) (sameId.symm.trans same)
  exact ⟨earlier, a, state, later, split, same, by rw [sameQuery, only]⟩

/-- Choices that answer the newest search stay the candidates until the caller replaces them. -/
theorem Moves.candidates_of_newest {s t : Selector} {log earlier later : Log} {x : Exchange}
    {a : Response} {state : Selector} {options : List Choice} (moves : Moves s log t)
    (fresh : s.search = some {}) (few : log.issued.length < Exchange.lastId)
    (tracked : Tracked log x) (split : log = earlier ++ .read a state :: later)
    (newest : a.id = x.latest) (ok : a.outcome = .ok options)
    (kept : ∀ candidates, .replaced candidates ∉ later) : t.candidates = options := by
  obtain ⟨y, rest, search, before, queue, after⟩ := moves.at_read fresh few split
  have waits : a ∈ y.responses := by simp [queue]
  have latest : y.isLatest a.id = true := by
    rw [before.isLatest_response waits]
    obtain ⟨r, issued, same, -⟩ := before.issued_of_response waits
    have bounds := before.id_bounds issued
    have fewer : earlier.issued.length < log.issued.length + 1 :=
      Log.issued_length_lt (Nat.lt_succ_self _) split
    rw [← before.latest, ← tracked.latest] at fewer
    omega
  have silent := Log.written_eq_nil (tracked.reads_after_newest split newest) kept
  calc t.candidates
      = later.written.getLast?.getD state.readResponse.2.candidates := after.candidates_eq
    _ = state.readResponse.2.candidates := by rw [silent]; rfl
    _ = options := Selector.readResponse_applied search queue latest ok

/-- **A settled list belongs to the query on screen.** On every run with a new worker that does not
run out of search numbers, once a query was typed, nothing is searched for and the worker lives: the
newest search asked for the normalized query, its answer has been read, choices that it brought are
the candidates unless the caller replaced them after that, and if it was turned down then reading
this changed neither candidates nor results. -/
theorem settled_list_belongs_to_query (s : Selector) (steps : List Step)
    (few : (s.withProvider.log steps).issued.length < Exchange.lastId)
    (typed : ∃ query now, .operation (.setQuery query now) ∈ steps)
    (idle : (s.withProvider.run steps).isSearching = false)
    (alive : ∃ x, (s.withProvider.run steps).search = some x ∧ x.worker ≠ .stopped) :
    ∃ newest earlier response state later,
      (s.withProvider.log steps).newest? = some newest ∧
      newest.query = (s.withProvider.run steps).normalizedQuery ∧
      s.withProvider.log steps = earlier ++ .read response state :: later ∧
      response.id = newest.id ∧ response.query = newest.query ∧
      (∀ options, response.outcome = .ok options → (∀ candidates, .replaced candidates ∉ later) →
        (s.withProvider.run steps).candidates = options) ∧
      (∀ error, response.outcome = .error error →
        state.readResponse.2.candidates = state.candidates ∧
          state.readResponse.2.filtered = state.filtered) := by
  have moves := Moves.of_run (s := s.withProvider) rfl steps
  obtain ⟨x, search, tracked⟩ := Tracked.of_moves moves rfl few
  obtain ⟨y, found, live⟩ := alive
  obtain rfl : x = y := Option.some.inj (search.symm.trans found)
  obtain ⟨query, now, mem⟩ := typed
  obtain ⟨_, said⟩ := Log.exists_typed s.withProvider mem
  obtain ⟨waiting, awaited⟩ : (s.withProvider.run steps).pendingSearch.pending = none ∧
      x.inFlight = false := by
    unfold Selector.isSearching at idle
    rw [Selector.isAwaiting_eq search] at idle
    simpa [Timing.Debouncer.isPending] using idle
  obtain ⟨newest, last, asked⟩ := (Asked.of_moves moves said).newest waiting
  obtain ⟨earlier, response, state, later, split, sameId, sameQuery⟩ :=
    tracked.exists_read_newest live awaited last
  refine ⟨newest, earlier, response, state, later, last, asked, split, sameId, sameQuery, ?_, ?_⟩
  · intro options ok kept
    have latest : response.id = x.latest := sameId.trans (tracked.newest_id last)
    exact moves.candidates_of_newest rfl few tracked split latest ok kept
  · intro error failed
    obtain ⟨u, rest, provided, -, queue, -⟩ := moves.at_read rfl few split
    exact (Selector.readResponse_kept provided queue (.inr ⟨error, failed⟩)).2

/-- When the run with two queries has settled, its newest search asked for the second. -/
theorem settled_list_belongs_to_query_overtaken :
    ((Selector.ofChoices {} []).withProvider.log overtaken).issued.length < Exchange.lastId ∧
      (∃ query now, .operation (.setQuery query now) ∈ overtaken) ∧
      ((Selector.ofChoices {} []).withProvider.run overtaken).isSearching = false ∧
      (∃ x, ((Selector.ofChoices {} []).withProvider.run overtaken).search = some x ∧
        x.worker ≠ .stopped) ∧
      ∃ newest, ((Selector.ofChoices {} []).withProvider.log overtaken).newest? = some newest ∧
        newest.query = "ab" := by
  have few : ((Selector.ofChoices {} []).withProvider.log overtaken).issued.length <
      Exchange.lastId := by decide
  have typed : ∃ query now, .operation (.setQuery query now) ∈ overtaken :=
    ⟨"a", 0, List.mem_cons_self⟩
  have idle : ((Selector.ofChoices {} []).withProvider.run overtaken).isSearching = false := rfl
  have alive : ∃ x, ((Selector.ofChoices {} []).withProvider.run overtaken).search = some x ∧
      x.worker ≠ .stopped := ⟨_, rfl, by decide⟩
  obtain ⟨newest, _, _, _, _, last, asked, -⟩ :=
    settled_list_belongs_to_query (Selector.ofChoices {} []) overtaken few typed idle alive
  exact ⟨few, typed, idle, alive, newest, last, asked⟩

end Picklist.Select
