import Picklist.Proofs.Select.Passage

/-!
# The last query wins

An answer changes the candidates only if it answers the search that was issued last when it is read.
So answers are applied in the order of their searches, each at most once, and an answer to a query
that was overtaken changes neither the candidates nor the results, however late it is sent or read.
-/

set_option autoImplicit false

namespace Picklist.Select

/-! ## What a single reading does -/

namespace Selector

variable {s : Selector} {x : Exchange} {a : Response} {rest : List Response}

/-- Reading an answer that is not to the latest search, or that turns the search down, changes
neither candidates nor results. -/
theorem readResponse_kept (h : s.search = some x) (queue : x.responses = a :: rest)
    (kept : x.isLatest a.id = false ∨ ∃ error, a.outcome = .error error) :
    s.readResponse.1 = false ∧ s.readResponse.2.candidates = s.candidates ∧
      s.readResponse.2.filtered = s.filtered := by
  have out := s.reading x h
  generalize s.readResponse = result at out ⊢
  generalize s.reads = new at out
  cases out with
  | empty none => simp [none] at queue
  | stale => exact ⟨rfl, rfl, rfl⟩
  | rejected => exact ⟨rfl, rfl, rfl⟩
  | applied b others options other latest ok =>
    obtain ⟨rfl, -⟩ : a = b ∧ rest = others := by simpa [queue] using other
    rcases kept with older | ⟨error, failed⟩
    · rw [latest] at older
      cases older
    · rw [ok] at failed
      cases failed

/-- Reading choices for the latest search makes them the candidates. -/
theorem readResponse_applied {options : List Choice} (h : s.search = some x)
    (queue : x.responses = a :: rest) (latest : x.isLatest a.id = true)
    (ok : a.outcome = .ok options) : s.readResponse.2.candidates = options := by
  have out := s.reading x h
  generalize s.readResponse = result at out ⊢
  generalize s.reads = new at out
  cases out with
  | empty none => simp [none] at queue
  | stale b others other older =>
    obtain ⟨rfl, -⟩ : a = b ∧ rest = others := by simpa [queue] using other
    rw [latest] at older
    cases older
  | applied b others chosen other _ found =>
    obtain ⟨rfl, -⟩ : a = b ∧ rest = others := by simpa [queue] using other
    rw [ok, Except.ok.injEq] at found
    rw [found]
    exact refilter_candidates _
  | rejected b others error other _ failed =>
    obtain ⟨rfl, -⟩ : a = b ∧ rest = others := by simpa [queue] using other
    rw [ok] at failed
    cases failed

end Selector

/-! ## What the log of a run says about readings -/

namespace Moves

variable {s t : Selector} {log : Log}

/-- An answer that the log says was read stood at the head of the queue in the logged state, the
exchange was then in the state that the log up to there tells, and the run went on from where the
reading led. -/
theorem at_read (moves : Moves s log t) (fresh : s.search = some {})
    (few : log.issued.length < Exchange.lastId) {earlier later : Log} {a : Response}
    {u : Selector} (split : log = earlier ++ .read a u :: later) :
    ∃ x rest, u.search = some x ∧ Tracked earlier x ∧ x.responses = a :: rest ∧
      Moves u.readResponse.2 later t := by
  obtain ⟨v, w, x, search, tracked, here, after⟩ := Tracked.at_event moves fresh few split
  cases here with
  | handOn _ out => cases out
  | work _ out => cases out
  | read found same out =>
    obtain rfl : x = _ := Option.some.inj (search.symm.trans found)
    rw [← same] at after
    cases out with
    | stale _ rest queue => exact ⟨x, rest, search, tracked, queue, after⟩
    | applied _ rest _ queue => exact ⟨x, rest, search, tracked, queue, after⟩
    | rejected _ rest _ queue => exact ⟨x, rest, search, tracked, queue, after⟩

/-- An answer whose reading changed something was to the search that had been issued last. -/
theorem newest_of_change (moves : Moves s log t) (fresh : s.search = some {})
    (few : log.issued.length < Exchange.lastId) {earlier later : Log} {a : Response}
    {u : Selector} (split : log = earlier ++ .read a u :: later)
    (change : u.readResponse.1 = true ∨ u.readResponse.2.candidates ≠ u.candidates ∨
      u.readResponse.2.filtered ≠ u.filtered) :
    earlier.newest?.map Request.id = some a.id := by
  obtain ⟨x, rest, search, tracked, queue, -⟩ := moves.at_read fresh few split
  rw [← tracked.isLatest_iff]
  cases latest : x.isLatest a.id with
  | true => rfl
  | false =>
    obtain ⟨quiet, candidates, filtered⟩ := Selector.readResponse_kept search queue (.inl latest)
    simp [quiet, candidates, filtered] at change

/-- The candidates are the list that was written last. -/
theorem candidates_eq (moves : Moves s log t) :
    t.candidates = log.written.getLast?.getD s.candidates := by
  induction moves with
  | refl => rfl
  | @tail t u log new _ move ih =>
    have unchanged (same : u.candidates = t.candidates) (silent : new.written = []) :
        u.candidates = (Log.written (log ++ new)).getLast?.getD s.candidates := by
      rw [Log.written_append_of_nil silent, same, ih]
    have changed {candidates : List Choice} (now : u.candidates = candidates)
        (said : new.written = [candidates]) :
        u.candidates = (Log.written (log ++ new)).getLast?.getD s.candidates := by
      rw [Log.written_append, said, List.getLast?_concat, Option.getD_some, now]
    cases move with
    | quiet same => exact unchanged same.candidates rfl
    | replace candidates => exact changed (Selector.refilter_candidates _) rfl
    | retype query now => exact unchanged (Selector.refilter_candidates _) rfl
    | handOn _ out => cases out <;> exact unchanged rfl rfl
    | work _ out => cases out <;> exact unchanged rfl rfl
    | read _ same out =>
      cases out with
      | empty => exact unchanged rfl rfl
      | stale a => exact unchanged rfl (by simp [Log.written, same])
      | applied a rest options queue latest ok =>
        exact changed (Selector.refilter_candidates _)
          (by simp [Log.written, same, ok, Except.toOption])
      | rejected a => exact unchanged rfl (by simp [Log.written, same])

end Moves

/-- Only answers that were read are applied. -/
theorem Log.applied_sublist_reads (log : Log) : log.applied.Sublist log.reads := by
  induction log with
  | nil => exact List.Sublist.refl _
  | cons e rest ih =>
    cases e with
    | read a u =>
      have reads : Log.reads (.read a u :: rest) = a :: Log.reads rest := rfl
      rw [reads]
      cases said : u.readResponse.1 with
      | true =>
        have applied : Log.applied (.read a u :: rest) = a :: Log.applied rest := by
          simp [Log.applied, said]
        rw [applied]
        exact ih.cons_cons a
      | false =>
        have applied : Log.applied (.read a u :: rest) = Log.applied rest := by
          simp [Log.applied, said]
        rw [applied]
        exact ih.cons a
    | _ => exact ih

/-- **The last query wins.** On every run with a new worker that does not run out of search numbers:
an answer whose reading changes candidates or results is to the search that was issued last before
it was read; the numbers of the applied answers increase; every answer is applied at most once for
each time that it was sent; and the candidates are the list that the caller or an applied answer
wrote last. -/
theorem last_query_wins (s : Selector) (steps : List Step)
    (few : (s.withProvider.log steps).issued.length < Exchange.lastId) :
    (∀ (earlier : Log) response state later,
      s.withProvider.log steps = earlier ++ .read response state :: later →
      (state.readResponse.1 = true ∨ state.readResponse.2.candidates ≠ state.candidates ∨
        state.readResponse.2.filtered ≠ state.filtered) →
      earlier.newest?.map Request.id = some response.id) ∧
    ((s.withProvider.log steps).applied.map Response.id).Pairwise (· < ·) ∧
    (s.withProvider.log steps).applied.Sublist (s.withProvider.log steps).sent ∧
    (s.withProvider.run steps).candidates =
      (s.withProvider.log steps).written.getLast?.getD s.candidates := by
  have moves := Moves.of_run (s := s.withProvider) rfl steps
  obtain ⟨x, -, tracked⟩ := Tracked.of_moves moves rfl few
  have read := Log.applied_sublist_reads (s.withProvider.log steps)
  refine ⟨?_, ?_, ?_, ?_⟩
  · intro earlier response state later split change
    exact moves.newest_of_change rfl few split change
  · have ordered := (List.pairwise_append.mp tracked.ordered).1
    exact ordered.sublist (read.map Response.id)
  · rw [tracked.queued]
    exact read.trans (List.sublist_append_left _ _)
  · exact moves.candidates_eq

/-- A second query is typed while the provider is answering the first. -/
def overtaken : List Step :=
  [.operation (.setQuery "a" 0), .worker .receive, .worker .examine,
    .operation (.setQuery "ab" 1), .worker (.answer (.ok [.ofLabel "Apple"])), .worker .receive,
    .operation .pump, .worker .examine, .worker (.answer (.ok [.ofLabel "Abacus"])),
    .operation (.tick 2)]

/-- Of the two answers only the second is applied. -/
theorem last_query_wins_overtaken :
    ((Selector.ofChoices {} []).withProvider.log overtaken).issued.length < Exchange.lastId ∧
      ((Selector.ofChoices {} []).withProvider.log overtaken).reads.map Response.id = [1, 2] ∧
      ((Selector.ofChoices {} []).withProvider.log overtaken).applied.map Response.id = [2] ∧
      ((Selector.ofChoices {} []).withProvider.run overtaken).candidates =
        [.ofLabel "Abacus"] := by
  have few : ((Selector.ofChoices {} []).withProvider.log overtaken).issued.length <
      Exchange.lastId := by decide
  obtain ⟨-, -, -, written⟩ := last_query_wins (Selector.ofChoices {} []) overtaken few
  refine ⟨few, rfl, rfl, ?_⟩
  rw [written]
  rfl

end Picklist.Select
