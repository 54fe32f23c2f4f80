import Picklist.Proofs.Select.NewestAnswer

/-!
# Ticks that report no change

A tick reports a change if and only if it reads new choices for the newest search. Without these it
leaves everything that shows as it was, except for one thing. A search can also end without choices:
the provider turns it down, or the worker has ended. Such a search is no longer under way after the
tick that learns of it, and the tick does not say so.
-/

set_option autoImplicit false

namespace Picklist.Select

namespace Exchange

/-- The awaited search ends without choices when the queue is read: it was turned down, or there is
no worker any more. -/
def Lapses (x : Exchange) : Prop :=
  x.worker = .stopped ∨
    ∃ a ∈ x.responses, x.isLatest a.id = true ∧ ∃ error, a.outcome = .error error

variable {x : Exchange}

/-- The queue holds choices for the newest search if and only if an answer brings some. -/
theorem newOptions_ne_nil_iff :
    x.newOptions ≠ [] ↔ ∃ a ∈ x.responses, ∃ options, x.Brings a options := by
  constructor
  · intro some_new
    by_contra nothing
    apply some_new
    rw [newOptions_eq]
    apply filterMap_brought_eq_nil
    intro a among options brings
    exact nothing ⟨a, among, options, brings⟩
  · rintro ⟨a, among, options, brings⟩ none_new
    rw [newOptions_eq, List.filterMap_eq_nil_iff] at none_new
    have silent := none_new a among
    rw [brought_eq_some_iff.mpr brings] at silent
    cases silent

/-- Where a drain brings nothing an answer stays awaited, unless the wait lapses. -/
theorem drained_inFlight_iff (silent : x.newOptions = []) :
    x.drained.inFlight = true ↔ x.inFlight = true ∧ ¬ x.Lapses := by
  have answered : x.responses.any (x.isLatest ·.id) = true ↔
      ∃ a ∈ x.responses, x.isLatest a.id = true ∧ ∃ error, a.outcome = .error error := by
    rw [List.any_eq_true]
    constructor
    · rintro ⟨a, among, latest⟩
      refine ⟨a, among, latest, ?_⟩
      rw [newOptions_eq, List.filterMap_eq_nil_iff] at silent
      have nothing := silent a among
      rw [brought, if_pos latest] at nothing
      cases outcome : a.outcome with
      | ok options =>
        rw [outcome] at nothing
        cases nothing
      | error error => exact ⟨error, rfl⟩
    · rintro ⟨a, among, latest, -⟩
      exact ⟨a, among, latest⟩
  unfold Lapses
  rw [← answered]
  simp [drained, and_assoc]

end Exchange

namespace Selector

variable {s : Selector} {x : Exchange}

/-! ## What a tick does -/

/-- Handing on a query changes what waits and the exchange, and nothing else. -/
theorem issueDueSearch_eq (s : Selector) (now : Nat) :
    ∃ search, s.issueDueSearch now =
      { s with pendingSearch := (s.pendingSearch.poll now).2, search } := by
  unfold issueDueSearch
  split
  · rename_i polled
    exact ⟨_, by rw [polled]⟩
  · rename_i polled
    exact ⟨s.search, by rw [polled]⟩

/-- Without a provider a tick hands on at the most. -/
theorem tick_of_detached {now : Nat} (detached : (s.issueDueSearch now).search = none) :
    s.tick now = (false, s.issueDueSearch now) := by
  simp [tick, pumpResponses, readResponses, readResponse, responses, detached]

/-- A tick hands on what is due and drains the answers. -/
theorem tick_eq {now : Nat} (search : (s.issueDueSearch now).search = some x) :
    s.tick now =
      (!x.newOptions.isEmpty,
        { x.newOptions.foldl setCandidates (s.issueDueSearch now) with
          search := some x.drained }) :=
  pumpResponses_eq search

/-- A tick reports a change if and only if it reads new choices for the newest search. -/
theorem tick_reports_iff (s : Selector) (now : Nat) :
    (s.tick now).1 = true ↔ ∃ x, (s.issueDueSearch now).search = some x ∧
      ∃ a ∈ x.responses, ∃ options, x.Brings a options := by
  cases search : (s.issueDueSearch now).search with
  | none => simp [tick_of_detached search]
  | some x =>
    rw [tick_eq search]
    simp [← Exchange.newOptions_ne_nil_iff]

/-- A silent tick changes what waits and the exchange, and nothing else. -/
theorem tick_of_silent {now : Nat} (silent : (s.tick now).1 = false) :
    (s.tick now).2 =
      { s with
        pendingSearch := (s.pendingSearch.poll now).2
        search := (s.issueDueSearch now).search.map Exchange.drained } := by
  obtain ⟨handed, eq⟩ := s.issueDueSearch_eq now
  cases search : (s.issueDueSearch now).search with
  | none =>
    rw [tick_of_detached search]
    rw [eq] at search ⊢
    simp_all
  | some x =>
    rw [tick_eq search] at silent ⊢
    have nothing : x.newOptions = [] := by simpa using silent
    rw [nothing, List.foldl_nil, eq]
    rfl

/-! ## The search under way -/

/-- A search that is under way after handing on was under way before: a query that is handed on has
waited. -/
theorem isSearching_of_handedOn {now : Nat}
    (searching : (s.issueDueSearch now).isSearching = true) : s.isSearching = true := by
  cases waiting : s.pendingSearch.pending with
  | some held => simp [isSearching, Timing.Debouncer.isPending, waiting]
  | none =>
    have same : s.issueDueSearch now = s := by
      simp [issueDueSearch, Timing.Debouncer.poll, waiting]
    rwa [same] at searching

/-- After a silent tick a search is under way as long as a query waits or the newest search is
awaited and has not lapsed. -/
theorem isSearching_of_silent {now : Nat} (silent : (s.tick now).1 = false) :
    (s.tick now).2.isSearching = true ↔
      (s.issueDueSearch now).pendingSearch.isPending = true ∨
        ∃ x, (s.issueDueSearch now).search = some x ∧ x.inFlight = true ∧ ¬ x.Lapses := by
  have waits : (s.issueDueSearch now).pendingSearch = (s.pendingSearch.poll now).2 := by
    obtain ⟨search, handed⟩ := s.issueDueSearch_eq now
    rw [handed]
  rw [tick_of_silent silent, waits]
  unfold isSearching isAwaiting
  dsimp only
  rw [Bool.or_eq_true]
  apply or_congr_right
  cases search : (s.issueDueSearch now).search with
  | none => simp
  | some x =>
    have nothing : x.newOptions = [] := by
      rw [tick_eq search] at silent
      simpa using silent
    simp [Exchange.drained_inFlight_iff nothing]

/-- A tick that tells of no change begins no search. -/
theorem isSearching_mono_of_silent {now : Nat} (silent : (s.tick now).1 = false)
    (searching : (s.tick now).2.isSearching = true) : s.isSearching = true := by
  refine isSearching_of_handedOn (?_ : (s.issueDueSearch now).isSearching = true)
  unfold isSearching isAwaiting
  rw [Bool.or_eq_true]
  rcases (isSearching_of_silent silent).mp searching with waits | ⟨x, search, awaited, -⟩
  · exact .inl waits
  · exact .inr (by rw [search]; exact awaited)

end Selector

/-- **A tick that reports no change leaves all that shows as it was, but may end a search.**
Whatever state a select list is in and whatever answers wait to be read: a tick reports a change if
and only if it reads choices for the newest search. If it reports none, the query, its expression,
the list of results, the highlight, the selection, the announcement and whether the list is open are
the same. A search is under way afterwards only if one was before, and that exactly as long as a
query still waits or the newest search is awaited, was not turned down and has a worker. So the view
is the same unless a search has ended without choices. -/
theorem silent_ticks_only_end_searches (s : Selector) (now : Nat) :
    let handed := s.issueDueSearch now
    let after := (s.tick now).2
    ((s.tick now).1 = true ↔ ∃ x, handed.search = some x ∧
      ∃ a ∈ x.responses, ∃ options, x.Brings a options) ∧
    ((s.tick now).1 = false →
      after.snapshot = { s.snapshot with isSearching := after.isSearching } ∧
      (after.isSearching = true → s.isSearching = true) ∧
      (after.isSearching = true ↔ handed.pendingSearch.isPending = true ∨
        ∃ x, handed.search = some x ∧ x.inFlight = true ∧ ¬ x.Lapses) ∧
      (after.snapshot = s.snapshot ↔ (s.isSearching = true → after.isSearching = true))) := by
  intro handed after
  refine ⟨s.tick_reports_iff now, fun silent => ?_⟩
  have view : after.snapshot = { s.snapshot with isSearching := after.isSearching } := by
    unfold after
    rw [Selector.tick_of_silent silent]
    rfl
  have kept : after.isSearching = true → s.isSearching = true :=
    Selector.isSearching_mono_of_silent silent
  refine ⟨view, kept, Selector.isSearching_of_silent silent, ?_⟩
  constructor
  · intro same searching
    rw [← searching]
    exact congrArg Snapshot.isSearching same
  · intro goes_on
    have flag : after.isSearching = s.isSearching := Bool.eq_iff_iff.mpr ⟨kept, goes_on⟩
    rw [view, flag]
    rfl

/-- A tick that reads an answer to an overtaken search is silent, and the search goes on. -/
theorem silent_ticks_only_end_searches_overtaken :
    let s := (Selector.ofChoices {} [.ofLabel "Abc"]).withProvider.run (bothAnswered.take 5)
    s.responses.length = 1 ∧ (s.tick 2).1 = false ∧ s.isSearching = true ∧
      (s.tick 2).2.snapshot = s.snapshot := by
  intro s
  have silent : (s.tick 2).1 = false := by decide +kernel
  obtain ⟨-, quiet⟩ := silent_ticks_only_end_searches s 2
  obtain ⟨-, -, -, same⟩ := quiet silent
  exact ⟨rfl, silent, by decide +kernel, same.mpr fun _ => by decide +kernel⟩

/-- A search that the provider turns down; the answer waits to be read. -/
def turnedDown : List Step :=
  [.operation (.setQuery "a" 0), .worker .receive, .worker .examine,
    .worker (.answer (.error (.rejected "no")))]

/-- The tick that learns that the search was turned down ends it without a report. -/
theorem rejected_search_ends_unreported :
    let s := (Selector.ofChoices {} [.ofLabel "Apple"]).withProvider.run
      turnedDown
    (s.tick 1).1 = false ∧ s.snapshot.isSearching = true ∧
      (s.tick 1).2.snapshot.isSearching = false ∧ (s.tick 1).2.snapshot ≠ s.snapshot := by
  intro s
  have before : s.snapshot.isSearching = true := by decide +kernel
  have after : (s.tick 1).2.snapshot.isSearching = false := by decide +kernel
  refine ⟨by decide +kernel, before, after, ?_⟩
  intro same
  rw [same, before] at after
  cases after

end Picklist.Select
