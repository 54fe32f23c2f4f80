import Picklist.Proofs.Report
import Picklist.Proofs.Select.Coherence
import Picklist.Proofs.Select.Move
import Picklist.Run

/-!
# Filtering with and without a session

A session with one query goes through a few stages: the query waits for its quiet period, its search
stands in the worker's queue, was taken, is being answered, its answer waits to be read, and at last
has been read. Time may pass, the worker move and answers be read in any order: the session only
gets from one stage to the next. At the last stage its candidates are what the provider found, or
the old ones when it found none, and these are what filtering without a session begins with.
-/

set_option autoImplicit false

namespace Picklist.Select

/-! ## Sessions with one query -/

/-- A search provider, seen as what it answers to a query. -/
abbrev Provider := String → Except SearchError (List Choice)

/-- What happens while an answer is awaited. -/
inductive Passing where
  | tick (now : Nat)
  /-- The first half of a tick. -/
  | handOn (now : Nat)
  | pump
  /-- One turn of a pump. -/
  | read
  /-- The worker takes the oldest request. -/
  | receive
  /-- The worker looks at the request that it has taken. -/
  | examine
  /-- The worker sends what the provider answers to the query of the request in progress. -/
  | answer
  deriving Repr, DecidableEq, Inhabited

/-- The exchange after the provider has answered the request in progress. -/
def Exchange.answerBy (provider : Provider) (x : Exchange) : Exchange :=
  match x.worker with
  | .answering r => x.answer (provider r.query)
  | _ => x

/-- The normal form in which a query is searched for. -/
abbrev Config.normalForm (config : Config) (query : String) : String :=
  Text.normalizeQueryString config.ignoreDiacritics query

namespace Selector

/-- The select list after something that happens while an answer is awaited. -/
def pass (provider : Provider) (s : Selector) : Passing → Selector
  | .tick now => (s.tick now).2
  | .handOn now => s.issueDueSearch now
  | .pump => s.pumpResponses.2
  | .read => s.readResponse.2
  | .receive => s.work .receive
  | .examine => s.work .examine
  | .answer => { s with search := s.search.map (·.answerBy provider) }

/-- The select list after a number of such happenings. -/
def passAll (provider : Provider) (s : Selector) (passings : List Passing) : Selector :=
  passings.foldl (pass provider) s

/-- A new select list with a provider, after a query was typed. -/
def typed (config : Config) (choices : List Choice) (query : String) (now : Nat) : Selector :=
  ((ofChoices config choices).withProvider).setQuery query now

/-- The same select list before the query may be handed on at once. -/
def scheduled (config : Config) (choices : List Choice) (query : String) (now : Nat) : Selector :=
  (((ofChoices config choices).withProvider).changeQuery query).scheduleSearch now

/-- Before the query is handed on the exchange with the worker is new. -/
theorem scheduled_search (config : Config) (choices : List Choice) (query : String) (now : Nat) :
    (scheduled config choices query now).search = some {} :=
  refilter_search _

/-- The query that was typed waits for the end of its quiet period. -/
theorem scheduled_pending (config : Config) (choices : List Choice) (query : String) (now : Nat) :
    (scheduled config choices query now).pendingSearch.pending =
      some ⟨now + config.searchDebounce, config.normalForm query⟩ := by
  simp [scheduled, scheduleSearch, Timing.Debouncer.schedule, changeQuery, withProvider, ofChoices]

/-- Typing schedules the query and hands it on if it is due already. -/
theorem typed_eq (config : Config) (choices : List Choice) (query : String) (now : Nat) :
    typed config choices query now = (scheduled config choices query now).issueDueSearch now :=
  if_pos (congrArg Option.isSome (scheduled_search config choices query now))

end Selector

/-! ## Stages of a search -/

variable {provider : Provider} {config : Config} {choices : List Choice} {query : String}

/-- The stages of the only search, with their numbers: the query that waits, the exchange, and the
candidates. -/
inductive Stage (provider : Provider) (query : String) (choices : List Choice) :
    Nat → Option (Timing.Scheduled String) → Exchange → List Choice → Prop where
  | waiting (deadline : Nat) : Stage provider query choices 0 (some ⟨deadline, query⟩) {} choices
  | queued : Stage provider query choices 1 none
      { latest := 1, inFlight := true, requests := [⟨1, query, choices⟩] } choices
  | taken : Stage provider query choices 2 none
      { latest := 1, inFlight := true, received := some ⟨1, query, choices⟩ } choices
  | answering : Stage provider query choices 3 none
      { latest := 1, inFlight := true, worker := .answering ⟨1, query, choices⟩ } choices
  | answered : Stage provider query choices 4 none
      { latest := 1, inFlight := true, responses := [⟨1, query, provider query⟩] } choices
  | settled : Stage provider query choices 5 none { latest := 1 }
      ((provider query).toOption.getD choices)

/-- A session in which one query was typed: nothing was selected, no hook is installed, the list is
right, and the search has come to a stage, at least to the one with the given number. -/
structure Typed (provider : Provider) (config : Config) (choices : List Choice) (query : String)
    (least : Nat) (s : Selector) : Prop extends Coherent s where
  config_eq : s.config = config
  hooks : s.hooks = {}
  selected : s.selected = {}
  query_eq : s.query = query
  stage : ∃ rank pending x candidates, least ≤ rank ∧ s.pendingSearch.pending = pending ∧
    s.search = some x ∧ s.candidates = candidates ∧
      Stage provider (config.normalForm query) choices rank pending x candidates

/-- The stage that is reached at least from one with number `least` by what moves a search on from
the stage with number `rank`. -/
def reached (rank least : Nat) : Nat := if least = rank then rank + 1 else least

/-- A stage that is not the one that is left stays reached. -/
theorem reached_le {rank least other : Nat} (bound : least ≤ other) (distinct : other ≠ rank) :
    reached rank least ≤ other := by
  unfold reached
  split <;> omega

/-- From the stage that is left the next one is reached. -/
theorem reached_le_next {rank least : Nat} (bound : least ≤ rank) :
    reached rank least ≤ rank + 1 := by
  unfold reached
  split <;> omega

/-- No stage is lost. -/
theorem le_reached (rank least : Nat) : least ≤ reached rank least := by
  unfold reached
  split <;> omega

namespace Typed

variable {s : Selector} {least : Nat}

/-- The search of a query that was just scheduled has come to its first stage. -/
theorem scheduled (provider : Provider) (config : Config) (choices : List Choice) (query : String)
    (now : Nat) :
    Typed provider config choices query 0 (Selector.scheduled config choices query now) := by
  refine ⟨(Coherent.changeQuery _ query).scheduleSearch now, ?_, ?_, ?_, ?_, ?_⟩
  · exact (Selector.refilter_config _).trans (Selector.refilter_config _)
  · exact (Selector.refilter_hooks _).trans (Selector.refilter_hooks _)
  · exact (Selector.refilter_selected _).trans (Selector.refilter_selected _)
  · exact Selector.refilter_query _
  · exact ⟨0, _, {}, choices, Nat.le_refl 0, Selector.scheduled_pending config choices query now,
      Selector.scheduled_search config choices query now,
      (Selector.refilter_candidates _).trans (Selector.refilter_candidates _), .waiting _⟩

/-- What is known of the stage may be forgotten. -/
theorem weaken (h : Typed provider config choices query least s) {other : Nat}
    (bound : other ≤ least) : Typed provider config choices query other s := by
  obtain ⟨rank, pending, x, candidates, known, stage⟩ := h.stage
  exact { h with stage := ⟨rank, pending, x, candidates, Nat.le_trans bound known, stage⟩ }

/-- Handing on moves a search on whose quiet period is over, and leaves others where they are. -/
theorem handOn (h : Typed provider config choices query least s) (now : Nat) :
    Typed provider config choices query least (s.issueDueSearch now) ∧
      ((∀ held, s.pendingSearch.pending = some held → held.deadline ≤ now) →
        Typed provider config choices query (max least 1) (s.issueDueSearch now)) := by
  obtain ⟨rank, pending, x, candidates, bound, waits, search, listed, stage⟩ := h.stage
  have coherent := h.toCoherent.issueDueSearch now
  have out := s.handingOn x now search
  generalize s.issues now = new at out
  generalize s.issueDueSearch now = t at out coherent
  cases out with
  | early early =>
    -- a query whose quiet period is over would have been handed on
    refine ⟨h, fun due => ⟨coherent, h.config_eq, h.hooks, h.selected, h.query_eq, ?_⟩⟩
    refine ⟨rank, pending, x, candidates, ?_, waits, search, listed, stage⟩
    cases stage with
    | waiting deadline =>
      have before := early _ waits
      have after := due _ waits
      omega
    | _ => omega
  | issued held heldWaits _ =>
    rw [waits] at heldWaits
    subst heldWaits
    cases stage with
    | waiting deadline =>
      have moved : Typed provider config choices query (max least 1)
          { s with
            pendingSearch := { s.pendingSearch with pending := none }
            search := some (Exchange.issue {} (config.normalForm query) s.candidates) } := by
        refine ⟨coherent, h.config_eq, h.hooks, h.selected, h.query_eq, ?_⟩
        refine ⟨1, none, _, choices, by omega, rfl, rfl, listed, ?_⟩
        rw [listed]
        exact .queued
      exact ⟨moved.weaken (Nat.le_max_left _ _), fun _ => moved⟩

/-- A turn of a pump moves a search on whose answer has come, and leaves others where they are. -/
theorem read (h : Typed provider config choices query least s) :
    Typed provider config choices query (reached 4 least) s.readResponse.2 := by
  obtain ⟨rank, pending, x, candidates, bound, waits, search, listed, stage⟩ := h.stage
  have coherent := h.toCoherent.readResponse
  have out := s.reading x search
  generalize s.reads = new at out
  generalize s.readResponse = after at out coherent ⊢
  cases out with
  | empty queue =>
    have quiet : x.noticeStop = x := by cases stage <;> rfl
    have unanswered : rank ≠ 4 := by
      rintro rfl
      cases stage
      cases queue
    refine ⟨coherent, h.config_eq, h.hooks, h.selected, h.query_eq, ?_⟩
    exact ⟨rank, pending, x, candidates, reached_le bound unanswered, waits,
      congrArg some quiet, listed, stage⟩
  | stale a rest queue older =>
    -- the only answer is the one to the only search, which is the latest
    cases stage with
    | answered =>
      cases queue
      cases older
    | _ => cases queue
  | applied a rest options queue latest ok =>
    cases stage with
    | answered =>
      cases queue
      dsimp only at ok
      have found : (provider (config.normalForm query)).toOption.getD choices = options := by
        rw [ok]
        rfl
      refine ⟨coherent, ?_, ?_, ?_, ?_, ?_⟩
      · exact (Selector.refilter_config _).trans h.config_eq
      · exact (Selector.refilter_hooks _).trans h.hooks
      · exact (Selector.refilter_selected _).trans h.selected
      · exact (Selector.refilter_query _).trans h.query_eq
      · refine ⟨5, none, _, options, reached_le_next bound, by simpa using waits,
          Selector.refilter_search _, Selector.refilter_candidates _, ?_⟩
        rw [← found]
        exact .settled
    | _ => cases queue
  | rejected a rest error queue latest failed =>
    cases stage with
    | answered =>
      cases queue
      dsimp only at failed
      have kept : (provider (config.normalForm query)).toOption.getD choices = choices := by
        rw [failed]
        rfl
      have last : Stage provider (config.normalForm query) choices 5 none { latest := 1 }
          ((provider (config.normalForm query)).toOption.getD choices) := .settled
      rw [kept] at last
      refine ⟨coherent, h.config_eq, h.hooks, h.selected, h.query_eq, ?_⟩
      exact ⟨5, none, _, choices, reached_le_next bound, waits, rfl, listed, last⟩
    | _ => cases queue

/-- The worker moves a search on that stands where it can take it, and leaves others where they
are. -/
theorem work (h : Typed provider config choices query least s) {move : Exchange → Exchange}
    {rank : Nat}
    (moves : ∀ {other pending x candidates},
      Stage provider (config.normalForm query) choices other pending x candidates →
        other ≠ rank ∧ move x = x ∨ other = rank ∧
          Stage provider (config.normalForm query) choices (rank + 1) pending (move x) candidates) :
    Typed provider config choices query (reached rank least)
      { s with search := s.search.map move } := by
  obtain ⟨other, pending, x, candidates, bound, waits, search, listed, stage⟩ := h.stage
  refine ⟨h.toCoherent.withSearch _, h.config_eq, h.hooks, h.selected, h.query_eq, ?_⟩
  have moved : s.search.map move = some (move x) := by rw [search]; rfl
  rcases moves stage with ⟨elsewhere, still⟩ | ⟨rfl, next⟩
  · rw [still] at moved
    exact ⟨other, pending, x, candidates, reached_le bound elsewhere, waits, moved, listed, stage⟩
  · exact ⟨other + 1, pending, _, candidates, reached_le_next bound, waits, moved, listed, next⟩

/-- Taking the request moves a search on from the queue. -/
theorem receive (h : Typed provider config choices query least s) :
    Typed provider config choices query (reached 1 least) (s.work .receive) :=
  h.work fun stage => by
    cases stage with
    | queued => exact .inr ⟨rfl, .taken⟩
    | _ => exact .inl ⟨by decide, rfl⟩

/-- Looking at the request moves a search on to the provider. -/
theorem examine (h : Typed provider config choices query least s) :
    Typed provider config choices query (reached 2 least) (s.work .examine) :=
  h.work fun stage => by
    cases stage with
    | taken => exact .inr ⟨rfl, .answering⟩
    | _ => exact .inl ⟨by decide, rfl⟩

/-- The answer of the provider moves a search on to the reader. -/
theorem answer (h : Typed provider config choices query least s) :
    Typed provider config choices query (reached 3 least)
      { s with search := s.search.map (·.answerBy provider) } :=
  h.work fun stage => by
    cases stage with
    | answering => exact .inr ⟨rfl, .answered⟩
    | _ => exact .inl ⟨by decide, rfl⟩

/-- Turns of a pump lose no stage. -/
theorem readMore (h : Typed provider config choices query least s) (turns : Nat) :
    Typed provider config choices query least (s.readResponses turns).2 := by
  induction turns generalizing s with
  | zero => exact h
  | succ turns ih => exact ih (h.read.weaken (le_reached 4 least))

/-- A pump moves a search on whose answer has come. -/
theorem pump (h : Typed provider config choices query least s) :
    Typed provider config choices query (reached 4 least) s.pumpResponses.2 :=
  h.read.readMore _

/-- Whatever happens, a search goes no stage back. -/
theorem pass (h : Typed provider config choices query least s) (passing : Passing) :
    Typed provider config choices query least (s.pass provider passing) := by
  cases passing with
  | tick now => exact (h.handOn now).1.pump.weaken (le_reached 4 least)
  | handOn now => exact (h.handOn now).1
  | pump => exact h.pump.weaken (le_reached 4 least)
  | read => exact h.read.weaken (le_reached 4 least)
  | receive => exact h.receive.weaken (le_reached 1 least)
  | examine => exact h.examine.weaken (le_reached 2 least)
  | answer => exact h.answer.weaken (le_reached 3 least)

/-- Whatever happens, and however often, a search goes no stage back. -/
theorem passAll (h : Typed provider config choices query least s) (passings : List Passing) :
    Typed provider config choices query least (s.passAll provider passings) := by
  induction passings generalizing s with
  | nil => exact h
  | cons passing rest ih => exact ih (h.pass passing)

/-- Whatever the quiet period is, typing leads to the first stage at least. -/
theorem typed (provider : Provider) (config : Config) (choices : List Choice) (query : String)
    (now : Nat) :
    Typed provider config choices query 0 (Selector.typed config choices query now) := by
  rw [Selector.typed_eq]
  exact ((scheduled provider config choices query now).handOn now).1

/-- A search that has ended has left what was found, or the old candidates. -/
theorem candidates_of_settled (h : Typed provider config choices query least s)
    (settled : s.isSearching = false) :
    s.candidates = (provider (config.normalForm query)).toOption.getD choices := by
  obtain ⟨rank, pending, x, candidates, -, waits, search, listed, stage⟩ := h.stage
  unfold Selector.isSearching Selector.isAwaiting Timing.Debouncer.isPending at settled
  rw [waits, search] at settled
  rw [listed]
  -- before the last stage either the query waits or the answer is awaited
  cases stage with
  | settled => rfl
  | _ => cases settled

/-- A session that is not searching lists what the filter lists of what was found. -/
theorem filtered_of_settled (h : Typed provider config choices query least s)
    (settled : s.isSearching = false) :
    s.filtered = filter ((provider (config.normalForm query)).toOption.getD choices)
      (config.normalForm query) {} config {} := by
  rw [h.listed, h.normalized, h.config_eq, h.hooks, h.selected, h.query_eq,
    h.candidates_of_settled settled]

/-- A search at the last stage has ended. -/
theorem settled (h : Typed provider config choices query 5 s) : s.isSearching = false := by
  obtain ⟨rank, pending, x, candidates, bound, waits, search, -, stage⟩ := h.stage
  unfold Selector.isSearching Selector.isAwaiting Timing.Debouncer.isPending
  rw [waits, search]
  cases stage with
  | settled => rfl
  | _ => omega

end Typed

/-! ## The session that is answered at once -/

/-- The quiet period is over, the worker answers, and the answer is read. -/
def answeredSearch (due later : Nat) : List Passing :=
  [.tick due, .receive, .examine, .answer, .tick later]

/-- What waits after typing is due when the quiet period is over. -/
theorem deadline_typed (config : Config) (choices : List Choice) (query : String) (now : Nat)
    {held : Timing.Scheduled String}
    (waits : (Selector.typed config choices query now).pendingSearch.pending = some held) :
    held.deadline ≤ now + config.searchDebounce := by
  rw [Selector.typed_eq] at waits
  have out := Selector.handingOn (Selector.scheduled config choices query now) {} now
    (Selector.scheduled_search config choices query now)
  generalize Selector.issues _ now = new at out
  generalize Selector.issueDueSearch _ now = t at out waits
  cases out with
  | issued => cases waits
  | early =>
    rw [Selector.scheduled_pending] at waits
    obtain rfl := Option.some.inj waits
    exact Nat.le_refl _

/-- A session goes through all stages when its search is answered. -/
theorem Typed.answeredSearch (provider : Provider) (config : Config) (choices : List Choice)
    (query : String) (now : Nat) {due : Nat} (fired : now + config.searchDebounce ≤ due)
    (later : Nat) :
    Typed provider config choices query 5
      ((Selector.typed config choices query now).passAll provider
        (answeredSearch due later)) := by
  have handedOn := ((Typed.typed provider config choices query now).handOn due).2
    fun held waits => Nat.le_trans (deadline_typed config choices query now waits) fired
  have taken : Typed provider config choices query 2 _ := handedOn.pump.receive
  have answered : Typed provider config choices query 4 _ := taken.examine.answer
  exact (answered.handOn later).1.pump

/-! ## Filtering without a session -/

variable {ε : Type}

/-- The provider that finds what a function finds, with its failures in the words of searches. -/
def asProvider (find : String → Except ε (List Choice)) (toError : ε → SearchError) : Provider :=
  fun query => (find query).mapError toError

/-- Filtering without a session filters what the provider finds, or the list that it was given. -/
theorem searched_eq (find : String → Except ε (List Choice)) (toError : ε → SearchError)
    (config : Config) (query : String) (choices : List Choice) :
    searched (some find) config query choices =
      (asProvider find toError (config.normalForm query)).toOption.getD choices := by
  unfold searched asProvider
  dsimp only
  cases find (config.normalForm query) <;> rfl

/-- A new query lists what the filter lists for its normal form. -/
theorem Selector.changeQuery_filtered (s : Selector) (query : String) :
    (s.changeQuery query).filtered =
      filter s.candidates (s.config.normalForm query) s.selected s.config s.hooks := by
  unfold Selector.changeQuery
  dsimp only
  obtain ⟨_, listed⟩ := Selector.refilter_eq
    { s with
      query
      normalizedQuery := s.config.normalForm query
      expression := s.hooks.compile (s.config.normalForm query)
      isOpen := true }
  exact congrArg Selector.filtered listed

/-- Filtering without a session lists what the filter lists of the choices that were found. -/
theorem batchFilter_eq (search : Option (String → Except ε (List Choice))) (config : Config)
    (query : String) (choices : List Choice) :
    batchFilter search config query choices =
      filter (searched search config query choices) (config.normalForm query) {} config {} := by
  unfold batchFilter
  generalize searched search config query choices = found
  have detached : ((Selector.ofChoices config found).changeQuery query).search = none := by
    simp [Selector.changeQuery, Selector.ofChoices]
  have typed : (Selector.ofChoices config found).setQuery query 0 =
      (Selector.ofChoices config found).changeQuery query := by
    simp [Selector.setQuery, detached]
  rw [typed, Selector.changeQuery_filtered]
  simp [Selector.ofChoices]

/-- A session that is not searching lists what filtering without a session lists. -/
theorem Typed.filtered_eq_batch {find : String → Except ε (List Choice)}
    {toError : ε → SearchError} {least : Nat} {s : Selector}
    (h : Typed (asProvider find toError) config choices query least s)
    (settled : s.isSearching = false) :
    s.filtered = batchFilter (some find) config query choices := by
  rw [h.filtered_of_settled settled, batchFilter_eq, searched_eq find toError]

/-- A failing search leaves the choices as they were. -/
theorem batchFilter_of_error {find : String → Except ε (List Choice)} {failure : ε}
    (failed : find (config.normalForm query) = .error failure) :
    batchFilter (some find) config query choices =
      filter choices (config.normalForm query) {} config {} := by
  have kept : searched (some find) config query choices = choices := by
    unfold searched
    dsimp only
    rw [failed]
  rw [batchFilter_eq, kept]

/-- The filtering command reports what filtering by its search command lists. -/
theorem runCommand_filter {commands : SearchCommand → String → Except ε (List Choice)}
    {find : String → Except ε (List Choice)} {surroundings : Surroundings} (format : OutputFormat)
    {settings : Settings.Effective} {arguments : CommandLine.SelectArguments}
    (read : readChoices surroundings arguments.input = .ok choices)
    (commanded : settings.searchCommand.map commands = some find) :
    runCommand commands surroundings format settings (.filter arguments) =
      .ok (Report.filtered format settings.initialQuery
        (batchFilter (some find) settings.select settings.initialQuery choices)) := by
  unfold runCommand
  dsimp only
  rw [read, commanded]
  rfl

/-- **Filtering without a session lists what a session comes to.** Whatever happens after a query
was typed, a session that is not searching any more lists what filtering without a session lists,
and after the quiet period, the answer of the provider and its reading the session is not searching
any more. Where the search fails both filter the choices that they were given. So what a run of the
filtering command prints lists what such a session comes to whose provider is the search command,
whatever that finds for a query: in plain form the labels one a line, and as JSON the query and the
choices. -/
theorem filtering_agrees_with_session (find : String → Except ε (List Choice))
    (toError : ε → SearchError) (config : Config) (choices : List Choice) (query : String)
    (now : Nat) :
    let start := Selector.typed config choices query now
    let listed := batchFilter (some find) config query choices
    (∀ passings,
      let s := start.passAll (asProvider find toError) passings
      s.isSearching = false → s.filtered = listed) ∧
    (∀ due later, now + config.searchDebounce ≤ due →
      let s := start.passAll (asProvider find toError) (answeredSearch due later)
      s.isSearching = false ∧ s.filtered = listed) ∧
    (∀ failure, find (config.normalForm query) = .error failure →
      listed = filter choices (config.normalForm query) {} config {}) ∧
    ∀ (commands : SearchCommand → String → Except ε (List Choice)) (surroundings : Surroundings)
      (format : OutputFormat) (settings : Settings.Effective)
      (arguments : CommandLine.SelectArguments) (due later : Nat),
      readChoices surroundings arguments.input = .ok choices →
      settings.searchCommand.map commands = some find → settings.select = config →
      settings.initialQuery = query → now + config.searchDebounce ≤ due →
      ∃ text, runCommand commands surroundings format settings (.filter arguments) = .ok text ∧
        Report.Lists query
          (start.passAll (asProvider find toError) (answeredSearch due later)).filtered format
          text := by
  intro start listed
  refine ⟨?settles, ?answered, ?fails, ?printed⟩
  case settles =>
    intro passings s settled
    exact ((Typed.typed _ config choices query now).passAll passings).filtered_eq_batch settled
  case answered =>
    intro due later fired s
    have ended :=
      Typed.answeredSearch (asProvider find toError) config choices query now fired later
    exact ⟨ended.settled, ended.filtered_eq_batch ended.settled⟩
  case fails =>
    intro failure failed
    exact batchFilter_of_error failed
  case printed =>
    intro commands surroundings format settings arguments due later read commanded selects asks
      fired
    have ended :=
      Typed.answeredSearch (asProvider find toError) config choices query now fired later
    refine ⟨_, runCommand_filter format read commanded, ?_⟩
    rw [ended.filtered_eq_batch ended.settled, selects, asks]
    exact Report.lists_filtered format query _

/-- A search that fails leaves both with the choices that they were given, and one of them is
printed. -/
theorem filtering_agrees_with_session_orchard :
    let config : Config := { searchDebounce := 200 }
    let orchard := [Choice.ofLabel "Kiwi", Choice.ofLabel "Fig"]
    let find : String → Except String (List Choice) := fun _ => .error "out of season"
    let surroundings : Surroundings :=
      { input := "Kiwi\nFig\n".toList.map fun c => c.toNat.toUInt8 }
    let settings : Settings.Effective :=
      { (default : Settings.Effective) with
        select := config, searchCommand := some "harvest", initialQuery := " fi" }
    let start := Selector.typed config orchard " fi" 0
    let s := start.passAll (asProvider find .rejected) (answeredSearch 200 300)
    s.isSearching = false ∧ s.filtered = [.ofLabel "Fig"] ∧
      ∃ text, runCommand (fun _ => find) surroundings .plain settings (.filter {}) = .ok text ∧
        text.toList = ['F', 'i', 'g', '\n'] := by
  intro config orchard find surroundings settings start s
  obtain ⟨settles, answered, fails, printed⟩ :=
    filtering_agrees_with_session find .rejected config orchard " fi" 0
  obtain ⟨settled, -⟩ := answered 200 300 (by decide)
  have listed : s.filtered = [.ofLabel "Fig"] := by
    refine (settles _ settled).trans ((fails "out of season" rfl).trans ?_)
    decide +kernel
  obtain ⟨text, ends, lists⟩ := printed (fun _ => find) surroundings .plain settings {} 200 300
    (by rfl) rfl rfl rfl (by decide)
  have labels : text.toList = s.filtered.flatMap fun c => c.label.toList ++ ['\n'] := lists
  rw [listed] at labels
  exact ⟨settled, listed, text, ends, labels⟩

end Picklist.Select
