import Picklist.Proofs.Lists
import Picklist.Proofs.Select.Intake
import Picklist.Proofs.Select.Stroke

/-!
# Searches wait for a quiet period

A query that is typed waits until nothing was typed for the quiet period, and is handed on at the
first occasion then. What waits is always the query typed last, with the end of its quiet period,
unless it was handed on already. So whatever the instants are that the caller gives, in whatever
order, a search stands in the timeline of the run right behind the query that it carries: no query
is searched for twice, and none that was overtaken while it waited. The searches of the timeline are
those that the exchange with the worker takes in.
-/

set_option autoImplicit false

namespace Picklist.Select

/-! ## Timelines -/

/-- A query that was typed, or a search that was issued, at an instant. -/
inductive Moment where
  | typed (text : String) (now : Nat)
  | issued (request : Request) (now : Nat)
  deriving Repr, DecidableEq

/-- The search that was issued, if it was one. -/
def Moment.request? : Moment → Option Request
  | typed _ _ => none
  | issued request _ => some request

/-- The instant that an operation hands in. -/
def Operation.instant? : Operation → Option Nat
  | .setQuery _ now | .tick now | .handOn now => some now
  | _ => none

namespace Selector

/-- The search that is handed on at an instant. -/
def handedOn (s : Selector) (now : Nat) : List Moment :=
  (s.dueRequest? now).toList.map (.issued · now)

/-- What is handed on is what the log says was issued. -/
theorem handedOn_eq (s : Selector) (now : Nat) :
    s.handedOn now = (s.issues now).issued.map (.issued · now) := by
  unfold handedOn issues
  cases s.dueRequest? now <;> rfl

/-- What an operation adds to the timeline: the query that it types and the search that it hands
on. -/
def operationMoments (s : Selector) : Operation → List Moment
  | .setQuery text now =>
    .typed text now :: ((s.changeQuery text).scheduleSearch now).handedOn now
  | .tick now | .handOn now => s.handedOn now
  | _ => []

/-- What a step adds to the timeline; the worker types and issues nothing. -/
def moments (s : Selector) : Step → List Moment
  | .operation operation => s.operationMoments operation
  | .worker _ => []

/-- The queries and searches of a run, in the order in which they came. -/
def timeline (s : Selector) : List Step → List Moment
  | [] => []
  | step :: rest => s.moments step ++ (s.step step).timeline rest

/-- A timeline goes on with what the last step adds. -/
theorem timeline_concat (s : Selector) (steps : List Step) (step : Step) :
    s.timeline (steps ++ [step]) = s.timeline steps ++ (s.run steps).moments step := by
  induction steps generalizing s with
  | nil => exact List.append_nil _
  | cons first rest ih =>
    rw [List.cons_append, timeline, ih, timeline, List.append_assoc]
    rfl

end Selector

/-! ## What leaves the waiting query alone -/

namespace Selector

/-- A turn of a pump leaves the waiting query alone. -/
theorem readResponse_pendingSearch (s : Selector) :
    s.readResponse.2.pendingSearch = s.pendingSearch := by
  cases search : s.search with
  | none => rw [readResponse, search]
  | some x =>
    have out := s.reading x search
    generalize s.readResponse = result at out ⊢
    generalize s.reads = new at out
    cases out with
    | applied => exact refilter_pendingSearch _
    | _ => rfl

/-- Turns of a pump leave the waiting query alone. -/
theorem readResponses_pendingSearch (s : Selector) (turns : Nat) :
    (s.readResponses turns).2.pendingSearch = s.pendingSearch := by
  induction turns generalizing s with
  | zero => rfl
  | succ turns ih => exact (ih s.readResponse.2).trans s.readResponse_pendingSearch

/-- An operation without an instant leaves the waiting query as it is, and nothing comes of it. -/
theorem perform_pendingSearch (s : Selector) {operation : Operation}
    (untimed : operation.instant? = none) :
    (s.perform operation).pendingSearch = s.pendingSearch ∧ s.operationMoments operation = [] := by
  cases operation with
  | setQuery | tick | handOn => cases untimed
  | pump => exact ⟨s.readResponses_pendingSearch _, rfl⟩
  | read => exact ⟨s.readResponse_pendingSearch, rfl⟩
  | setCandidates candidates => exact ⟨refilter_pendingSearch _, rfl⟩
  | _ => exact ⟨(s.sameSearch_perform rfl).pendingSearch, rfl⟩

end Selector

/-! ## What waits -/

/-- The query that waits after a timeline: the one typed last, unless it was handed on. -/
def waiting? (config : Config) (timeline : List Moment) : Option (Timing.Scheduled String) :=
  match timeline.getLast? with
  | some (.typed text now) =>
    some ⟨now + config.searchDebounce, Text.normalizeQueryString config.ignoreDiacritics text⟩
  | _ => none

/-- The search at the end of a timeline carries the query typed right before it, whose quiet period
was over. -/
def Answers (config : Config) (earlier : List Moment) (request : Request) (now : Nat) : Prop :=
  ∃ held, waiting? config earlier = some held ∧ request.query = held.value ∧ held.deadline ≤ now

/-- A list with a provider in which what waits is what the timeline says, every search having come
at the end of a quiet period. -/
structure Waits (config : Config) (timeline : List Moment) (s : Selector) : Prop where
  settings : s.config = config
  provider : s.search.isSome
  delay : s.pendingSearch.delay = config.searchDebounce
  pending : s.pendingSearch.pending = waiting? config timeline
  answers : ∀ earlier request now later, timeline = earlier ++ .issued request now :: later →
    Answers config earlier request now

namespace Waits

variable {config : Config} {timeline : List Moment} {s t : Selector}

/-- Before anything is typed nothing waits. -/
theorem start (config : Config) (candidates : List Choice) :
    Waits config [] (Selector.ofChoices config candidates).withProvider where
  settings := Selector.refilter_config _
  provider := rfl
  delay := congrArg Timing.Debouncer.delay (Selector.refilter_pendingSearch _)
  pending := congrArg Timing.Debouncer.pending (Selector.refilter_pendingSearch _)
  answers := by
    intro earlier request now later split
    cases earlier <;> cases split

/-- What touches neither settings nor the waiting query keeps to the timeline. -/
theorem quiet (h : Waits config timeline s) (same : t.config = s.config)
    (provider : t.search.isSome) (pending : t.pendingSearch = s.pendingSearch) :
    Waits config timeline t where
  settings := same.trans h.settings
  provider := provider
  delay := by rw [pending, h.delay]
  pending := by rw [pending, h.pending]
  answers := h.answers

/-- Typing sets the query that waits. -/
theorem retype (h : Waits config timeline s) (text : String) (now : Nat) :
    Waits config (timeline ++ [.typed text now]) ((s.changeQuery text).scheduleSearch now) where
  settings := (Selector.refilter_config _).trans h.settings
  provider := by
    show (Selector.refilter _).search.isSome
    rw [Selector.refilter_search]
    exact h.provider
  delay := by
    show (Selector.refilter _).pendingSearch.delay = _
    rw [Selector.refilter_pendingSearch]
    exact h.delay
  pending := by
    have delay : (s.changeQuery text).pendingSearch.delay = config.searchDebounce := by
      rw [Selector.changeQuery, Selector.refilter_pendingSearch]
      exact h.delay
    have normal : (s.changeQuery text).normalizedQuery =
        Text.normalizeQueryString config.ignoreDiacritics text := by
      rw [Selector.changeQuery, Selector.refilter_normalizedQuery, h.settings]
    rw [Selector.scheduleSearch, Timing.Debouncer.schedule, delay, normal, waiting?,
      List.getLast?_concat]
  answers := by
    intro earlier request at' later split
    rcases split_concat split with ⟨-, same, -⟩ | ⟨rest, before, -⟩
    · cases same
    · exact h.answers earlier request at' rest before

/-- Handing on what is due keeps to the timeline, and nothing waits then. -/
theorem issue (h : Waits config timeline s) {x : Exchange} {held : Timing.Scheduled String}
    {now : Nat} (waits : s.pendingSearch.pending = some held) (due : held.deadline ≤ now) :
    Waits config (timeline ++ [.issued (x.nextRequest held.value s.candidates) now])
      { s with
        pendingSearch := { s.pendingSearch with pending := none }
        search := some (x.issue held.value s.candidates) } where
  settings := h.settings
  provider := rfl
  delay := h.delay
  pending := by rw [waiting?, List.getLast?_concat]
  answers := by
    intro earlier request at' later split
    rcases split_concat split with ⟨rfl, same, -⟩ | ⟨rest, before, -⟩
    · obtain ⟨rfl, rfl⟩ := Moment.issued.inj same
      exact ⟨held, h.pending.symm.trans waits, rfl, due⟩
    · exact h.answers earlier request at' rest before

/-- Handing on takes what waits if its quiet period is over, and leaves nothing that is due. -/
theorem handOn (h : Waits config timeline s) (now : Nat) :
    Waits config (timeline ++ s.handedOn now) (s.issueDueSearch now) ∧
      ∀ held, (s.issueDueSearch now).pendingSearch.pending = some held → now < held.deadline := by
  obtain ⟨x, search⟩ := Option.isSome_iff_exists.mp h.provider
  have out := s.handingOn x now search
  rw [s.handedOn_eq now]
  generalize s.issueDueSearch now = after at out ⊢
  generalize s.issues now = new at out ⊢
  cases out with
  | issued held waits due =>
    refine ⟨h.issue waits due, ?_⟩
    intro left none
    cases none
  | early waits =>
    refine ⟨?_, waits⟩
    rw [show Log.issued [] = [] from rfl, List.map_nil, List.append_nil]
    exact h

/-- Reading answers concerns no query. -/
theorem pump (h : Waits config timeline s) : Waits config timeline s.pumpResponses.2 :=
  h.quiet (s.act_config (.step (.operation .pump)))
    ((Moves.of_pump h.provider).isSome_search h.provider) (s.readResponses_pendingSearch _)

/-- An operation with an instant takes in what is typed and hands on what is due. -/
theorem timed (h : Waits config timeline s) {operation : Operation} {now : Nat}
    (timed : operation.instant? = some now) :
    Waits config (timeline ++ s.operationMoments operation) (s.perform operation) ∧
      ∀ held, (s.perform operation).pendingSearch.pending = some held → now < held.deadline := by
  cases operation with
  | setQuery text at' =>
    obtain rfl := Option.some.inj timed
    have typed := h.retype text at'
    have same : s.perform (.setQuery text at') =
        ((s.changeQuery text).scheduleSearch at').issueDueSearch at' := if_pos typed.provider
    have handed := typed.handOn at'
    rw [List.append_assoc] at handed
    rw [same]
    exact handed
  | tick at' =>
    obtain rfl := Option.some.inj timed
    obtain ⟨handed, early⟩ := h.handOn at'
    refine ⟨handed.pump, ?_⟩
    intro held waits
    apply early
    rw [← waits]
    exact congrArg Timing.Debouncer.pending (Selector.readResponses_pendingSearch _ _).symm
  | handOn at' =>
    obtain rfl := Option.some.inj timed
    exact h.handOn at'
  | _ => cases timed

/-- Every step goes on with the timeline. -/
theorem step (h : Waits config timeline s) (step : Step) :
    Waits config (timeline ++ s.moments step) (s.step step) := by
  cases step with
  | operation operation =>
    cases instant : operation.instant? with
    | some now => exact (h.timed instant).1
    | none =>
      obtain ⟨pending, silent⟩ := s.perform_pendingSearch instant
      have settings := s.act_config (.step (.operation operation))
      have provider := (Moves.of_operation h.provider operation).isSome_search h.provider
      rw [Selector.moments, silent, List.append_nil]
      exact h.quiet settings provider pending
  | worker move =>
    rw [Selector.moments, List.append_nil]
    refine h.quiet rfl ?_ rfl
    exact (Moves.of_step h.provider (.worker move)).isSome_search h.provider

/-- A run keeps to its timeline. -/
theorem run (h : Waits config timeline s) (steps : List Step) :
    Waits config (timeline ++ s.timeline steps) (s.run steps) := by
  induction steps generalizing s timeline with
  | nil =>
    rw [Selector.timeline, List.append_nil]
    exact h
  | cons step rest ih =>
    rw [Selector.timeline, ← List.append_assoc]
    exact ih (h.step step)

end Waits

/-! ## The timeline and the log -/

namespace Selector

/-- The searches handed on are those that the log says were issued. -/
theorem requests_handedOn (s : Selector) (now : Nat) :
    (s.handedOn now).filterMap Moment.request? = (s.issues now).issued := by
  rw [handedOn_eq, List.filterMap_map]
  exact List.filterMap_some

/-- The searches that a step adds to the timeline are those that it adds to the log. -/
theorem requests_moments (s : Selector) (step : Step) :
    (s.moments step).filterMap Moment.request? = (s.events step).issued := by
  cases step with
  | worker move => exact (s.issued_workEvents move).symm
  | operation operation =>
    cases operation with
    | setQuery text now => exact requests_handedOn _ now
    | tick now =>
      have silent : (s.issueDueSearch now).pumpEvents.issued = [] := issued_manyReads _ _
      show (s.handedOn now).filterMap Moment.request? = Log.issued (s.issues now ++ _)
      rw [Log.issued_append_of_nil silent, requests_handedOn]
    | handOn now => exact s.requests_handedOn now
    | pump => exact (s.issued_manyReads _).symm
    | read => exact s.issued_reads.symm
    | _ => rfl

/-- The searches of the timeline are those of the log. -/
theorem requests_timeline (s : Selector) (steps : List Step) :
    (s.timeline steps).filterMap Moment.request? = (s.log steps).issued := by
  induction steps generalizing s with
  | nil => rfl
  | cons step rest ih =>
    rw [timeline, List.filterMap_append, requests_moments, ih, log, Log.issued_append]

end Selector

/-! ## Which query a search goes back to -/

/-- The search at place `search` of a timeline goes back to the query at place `place`, the last one
typed before it. -/
structure GoesBack (timeline : List Moment) (place search : Nat) : Prop where
  typed : ∃ text now, timeline[place]? = some (.typed text now)
  issued : ∃ request now, timeline[search]? = some (.issued request now)
  before : place < search
  last : ∀ between text now, place < between → between < search →
    timeline[between]? ≠ some (.typed text now)

/-- What waits was typed last. -/
theorem waiting?_eq_some {config : Config} {timeline : List Moment}
    {held : Timing.Scheduled String} (waits : waiting? config timeline = some held) :
    ∃ text now, timeline.getLast? = some (.typed text now) ∧
      held = ⟨now + config.searchDebounce,
        Text.normalizeQueryString config.ignoreDiacritics text⟩ := by
  unfold waiting? at waits
  split at waits
  · rename_i text now last
    exact ⟨text, now, last, (Option.some.inj waits).symm⟩
  · cases waits

namespace Waits

variable {config : Config} {timeline : List Moment} {s : Selector}

/-- Every search stands right behind the query that it carries. -/
theorem exists_typed (h : Waits config timeline s) {search : Nat} {request : Request} {now : Nat}
    (here : timeline[search]? = some (.issued request now)) :
    ∃ place text start, search = place + 1 ∧ timeline[place]? = some (.typed text start) ∧
      request.query = Text.normalizeQueryString config.ignoreDiacritics text ∧
      start + config.searchDebounce ≤ now := by
  obtain ⟨inside, entry⟩ := List.getElem?_eq_some_iff.mp here
  have split : timeline =
      timeline.take search ++ .issued request now :: timeline.drop (search + 1) := by
    rw [← entry, ← List.drop_eq_getElem_cons inside, List.take_append_drop]
  obtain ⟨held, waits, query, due⟩ := h.answers _ _ _ _ split
  obtain ⟨text, start, last, rfl⟩ := waiting?_eq_some waits
  cases search with
  | zero => cases last
  | succ place =>
    rw [List.getLast?_take, if_neg (Nat.succ_ne_zero place), Nat.add_sub_cancel,
      List.getElem?_eq_getElem (Nat.lt_of_succ_lt inside), Option.some_or] at last
    refine ⟨place, text, start, rfl, ?_, query, due⟩
    rw [List.getElem?_eq_getElem (Nat.lt_of_succ_lt inside), last]

/-- A search goes back to the query right before it. -/
theorem next_of_goesBack (h : Waits config timeline s) {place search : Nat}
    (back : GoesBack timeline place search) : search = place + 1 := by
  obtain ⟨request, now, here⟩ := back.issued
  obtain ⟨place', text, start, rfl, typed, -⟩ := h.exists_typed here
  have before := back.before
  rcases Nat.lt_or_eq_of_le (Nat.le_of_lt_succ before) with between | rfl
  · exact absurd typed (back.last place' text start between (Nat.lt_succ_self _))
  · rfl

end Waits

/-- How the searches of a timeline keep the quiet period. -/
structure KeepsQuietPeriod (config : Config) (timeline : List Moment) : Prop where
  /-- Every search carries the normal form of the query typed last, which was typed a whole quiet
  period before. -/
  latest : ∀ search request now, timeline[search]? = some (.issued request now) →
    ∃ place text typed, GoesBack timeline place search ∧
      timeline[place]? = some (.typed text typed) ∧
      request.query = Text.normalizeQueryString config.ignoreDiacritics text ∧
      typed + config.searchDebounce ≤ now
  /-- No two searches go back to one query. -/
  once : ∀ place search search', GoesBack timeline place search →
    GoesBack timeline place search' → search = search'
  /-- No search goes back to a query that another one followed before a search was issued. -/
  overtaken : ∀ place place' text now, place < place' →
    timeline[place']? = some (.typed text now) →
    (∀ between request issued, place < between → between < place' →
      timeline[between]? ≠ some (.issued request issued)) →
    ∀ search, ¬ GoesBack timeline place search

/-- A timeline that waits as it should keeps the quiet period. -/
theorem Waits.keepsQuietPeriod {config : Config} {timeline : List Moment} {s : Selector}
    (h : Waits config timeline s) : KeepsQuietPeriod config timeline where
  latest := by
    intro search request now here
    obtain ⟨place, text, typed, rfl, before, query, due⟩ := h.exists_typed here
    refine ⟨place, text, typed, ?_, before, query, due⟩
    refine ⟨⟨text, typed, before⟩, ⟨request, now, here⟩, Nat.lt_succ_self place, ?_⟩
    intro between _ _ above below
    omega
  once := by
    intro place search search' back back'
    rw [h.next_of_goesBack back, h.next_of_goesBack back']
  overtaken := by
    intro place place' text now before typed unissued search back
    obtain rfl := h.next_of_goesBack back
    obtain ⟨request, issued, here⟩ := back.issued
    rcases Nat.lt_or_eq_of_le (Nat.succ_le_of_lt before) with between | rfl
    · exact unissued (place + 1) request issued (Nat.lt_succ_self place) between here
    · rw [typed] at here
      cases here

/-- **Searches wait for a quiet period.** On every run with one provider, from the start and
whatever the instants are, the searches keep the quiet period. What waits after the run is the query
typed last, with the end of its quiet period, unless it was handed on. Where typing or a tick leaves
a query waiting, its quiet period is not over.

The searches of the timeline are those of the log, and they are what the exchange with the worker
gets: after the run it has taken in these and no others, and with every further operation it takes
in what the timeline says of that. -/
theorem searches_wait_for_quiet_period (config : Config) (candidates : List Choice)
    (steps : List Step) :
    let start := (Selector.ofChoices config candidates).withProvider
    let s := start.run steps
    let issued := (start.timeline steps).filterMap Moment.request?
    KeepsQuietPeriod config (start.timeline steps) ∧
      s.pendingSearch.pending = waiting? config (start.timeline steps) ∧
      (∀ earlier operation later now, steps = earlier ++ .operation operation :: later →
        operation.instant? = some now → ∀ held,
        ((start.run earlier).perform operation).pendingSearch.pending = some held →
        ∃ text typed, (start.timeline (earlier ++ [.operation operation])).getLast? =
            some (.typed text typed) ∧
          held = ⟨typed + config.searchDebounce,
            Text.normalizeQueryString config.ignoreDiacritics text⟩ ∧
          now < typed + config.searchDebounce) ∧
      issued = (start.log steps).issued ∧
      ∃ x, s.search = some x ∧ x.HasTaken issued ∧
        ∀ operation, ∃ y, (s.perform operation).search = some y ∧
          x.TakesIn ((s.operationMoments operation).filterMap Moment.request?) y := by
  intro start s issued
  have fresh := Waits.start config candidates
  have waits : Waits config (start.timeline steps) s := fresh.run steps
  have logged : issued = (start.log steps).issued := start.requests_timeline steps
  refine ⟨waits.keepsQuietPeriod, waits.pending, ?left, logged, ?taken⟩
  case left =>
    intro earlier operation later now _ instant held left
    obtain ⟨after, early⟩ := (fresh.run earlier).timed instant
    obtain ⟨text, typed, last, rfl⟩ := waiting?_eq_some (after.pending.symm.trans left)
    refine ⟨text, typed, ?_, rfl, early _ left⟩
    rw [start.timeline_concat]
    exact last
  case taken =>
    obtain ⟨x, search, taken⟩ := Selector.hasTaken_run (s := start) rfl .new steps
    rw [List.nil_append, ← logged] at taken
    refine ⟨x, search, taken, ?_⟩
    intro operation
    have same := s.requests_moments (.operation operation)
    rw [Selector.moments] at same
    rw [same]
    exact Selector.takesIn_perform search operation

/-- The first query is overtaken, and a clock that jumps back only makes the second one wait. -/
example : (Selector.ofChoices { searchDebounce := 10 } []).withProvider.timeline
    [.operation (.setQuery "a" 0), .operation (.setQuery " ab " 5), .operation (.tick 14),
      .operation (.tick 3), .operation (.tick 15), .operation (.tick 40)] =
    [.typed "a" 0, .typed " ab " 5, .issued ⟨1, "ab", []⟩ 15] := by
  decide +kernel

end Picklist.Select
