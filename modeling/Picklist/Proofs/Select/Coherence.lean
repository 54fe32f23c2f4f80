import Picklist.Proofs.Select.Frame

/-!
# The cached list is never stale

A select list caches the normal form of its query, the expression of that, and the choices that it
lists. At every point of its life these are what computing them anew would give. An operation that
touches what the list is filtered by puts the caches right again in two stages: first the normal
form and its expression, then the list.
-/

set_option autoImplicit false

namespace Picklist.Select

/-- The normal form of the query and its expression are right. -/
structure Prepared (s : Selector) : Prop where
  normalized : s.normalizedQuery = Text.normalizeQueryString s.config.ignoreDiacritics s.query
  compiled : s.expression = s.hooks.compile s.normalizedQuery

/-- All that a select list caches is right. -/
structure Coherent (s : Selector) : Prop extends Prepared s where
  listed : s.filtered = filter s.candidates s.normalizedQuery s.selected s.config s.hooks

/-- A view shows what filtering the candidates for the query that it shows would give. -/
structure Snapshot.Coherent (v : Snapshot) (candidates : List Choice) (config : Config)
    (hooks : Hooks) : Prop where
  compiled : v.expression =
    hooks.compile (Text.normalizeQueryString v.ignoreDiacritics v.query)
  listed : v.filtered =
    filter candidates (Text.normalizeQueryString v.ignoreDiacritics v.query) v.selected config hooks

/-- A select list without a query is prepared. -/
theorem Prepared.empty (config : Config) (candidates : List Choice) :
    Prepared { config, candidates } where
  normalized := by
    show "" = Text.normalizeQueryString config.ignoreDiacritics ""
    cases config.ignoreDiacritics <;> rfl
  compiled := rfl

/-- Listing the candidates anew puts the list right. -/
theorem Prepared.refilter {s : Selector} (h : Prepared s) : Coherent s.refilter := by
  obtain ⟨highlighted, same⟩ := s.refilter_eq
  rw [same]
  refine ⟨⟨h.normalized, h.compiled⟩, ?_⟩
  unfold filter
  rw [← h.compiled]

namespace Coherent

variable {s : Selector}

/-! ## Operations -/

/-- The highlight is no part of the caches. -/
theorem applyAutoHighlight (h : Coherent s) : Coherent s.applyAutoHighlight := by
  obtain ⟨_, same⟩ := s.applyAutoHighlight_eq
  rw [same]
  exact ⟨⟨h.normalized, h.compiled⟩, h.listed⟩

/-- Closing the list touches no cache. -/
theorem close (h : Coherent s) : Coherent s.close := ⟨⟨h.normalized, h.compiled⟩, h.listed⟩

/-- Opening the list touches no cache. -/
theorem openList (h : Coherent s) : Coherent s.openList :=
  applyAutoHighlight ⟨⟨h.normalized, h.compiled⟩, h.listed⟩

/-- Moving the highlight touches no cache. -/
theorem moveHighlight (h : Coherent s) (direction : Direction) :
    Coherent (s.moveHighlight direction).2 :=
  ⟨⟨h.normalized, h.compiled⟩, h.listed⟩

/-- What goes on with the worker touches no cache. -/
theorem withSearch (h : Coherent s) (search : Option Exchange) : Coherent { s with search } :=
  ⟨⟨h.normalized, h.compiled⟩, h.listed⟩

/-- New hooks write another expression for the same normal form. -/
theorem withHooks (h : Coherent s) (hooks : Hooks) : Coherent (s.withHooks hooks) :=
  Prepared.refilter ⟨h.normalized, rfl⟩

/-- The selection counts where selected choices are excluded. -/
theorem withSelected (h : Coherent s) (choices : List Choice) : Coherent (s.withSelected choices) :=
  Prepared.refilter ⟨h.normalized, h.compiled⟩

/-- New candidates are filtered at once. -/
theorem setCandidates (h : Coherent s) (candidates : List Choice) :
    Coherent (s.setCandidates candidates) :=
  Prepared.refilter ⟨h.normalized, h.compiled⟩

/-- A new query needs nothing from the caches before. -/
theorem changeQuery (s : Selector) (query : String) : Coherent (s.changeQuery query) :=
  Prepared.refilter ⟨rfl, rfl⟩

/-- Scheduling a search touches no cache. -/
theorem scheduleSearch (h : Coherent s) (now : Nat) : Coherent (s.scheduleSearch now) :=
  ⟨⟨h.normalized, h.compiled⟩, h.listed⟩

/-- Handing a query on touches no cache. -/
theorem issueDueSearch (h : Coherent s) (now : Nat) : Coherent (s.issueDueSearch now) := by
  unfold Selector.issueDueSearch
  split <;> exact ⟨⟨h.normalized, h.compiled⟩, h.listed⟩

/-- Typing puts all caches right, whatever they were. -/
theorem setQuery (s : Selector) (query : String) (now : Nat) :
    Coherent (s.setQuery query now) := by
  have changed := changeQuery s query
  unfold Selector.setQuery
  dsimp only
  split
  · exact (changed.scheduleSearch now).issueDueSearch now
  · exact changed

/-- Selecting a choice lists the candidates anew where the selection changes. -/
theorem select (h : Coherent s) (choice : Choice) : Coherent (s.select choice).2 := by
  unfold Selector.select
  split
  · exact h
  · split
    · split
      · exact h
      · exact Prepared.refilter ⟨h.normalized, h.compiled⟩
    · split
      · exact h.close
      · exact Prepared.refilter ⟨h.normalized, h.compiled⟩

/-- Removing a choice lists the candidates anew where the selection changes. -/
theorem remove (h : Coherent s) (key : String) : Coherent (s.remove key).2 := by
  unfold Selector.remove
  split
  · exact Prepared.refilter ⟨h.normalized, h.compiled⟩
  · exact h

/-- Committing the highlighted choice keeps the caches right. -/
theorem commitHighlighted (h : Coherent s) : Coherent s.commitHighlighted.2 := by
  unfold Selector.commitHighlighted
  split
  · exact h.select _
  · exact h

/-- Arrows touch no cache. -/
theorem arrow (h : Coherent s) (direction : Direction) : Coherent (s.arrow direction) := by
  unfold Selector.arrow
  split
  · exact h.moveHighlight direction
  · dsimp only
    split <;> exact ⟨⟨h.normalized, h.compiled⟩, h.listed⟩

/-- Keys keep the caches right. -/
theorem handleKey (h : Coherent s) (key : Key) : Coherent (s.handleKey key).2 := by
  unfold Selector.handleKey
  cases key with
  | up => exact h.arrow .backward
  | down => exact h.arrow .forward
  | enter =>
    dsimp only
    split
    · exact h.commitHighlighted
    · exact h
  | escape => exact h.close
  | tab => exact h.close
  | backspace =>
    dsimp only
    split
    · split
      · exact h.remove _
      · exact h
    · exact h

/-! ## Answers of the worker -/

/-- An answer that brings candidates has them filtered at once. -/
theorem handleResponse (h : Coherent s) (response : Response) :
    Coherent (s.handleResponse response).2 := by
  unfold Selector.handleResponse
  split
  · exact h
  · split
    · dsimp only
      split
      · exact Prepared.refilter ⟨h.normalized, h.compiled⟩
      · exact h.withSearch _
    · exact h

/-- A turn of a pump keeps the caches right. -/
theorem readResponse (h : Coherent s) : Coherent s.readResponse.2 := by
  unfold Selector.readResponse
  split
  · exact h
  · split
    · exact (h.withSearch _).handleResponse _
    · exact h.withSearch _

/-- Turns of a pump keep the caches right. -/
theorem readResponses (h : Coherent s) (turns : Nat) : Coherent (s.readResponses turns).2 := by
  induction turns generalizing s with
  | zero => exact h
  | succ turns ih => exact ih h.readResponse

/-- A pump keeps the caches right. -/
theorem pumpResponses (h : Coherent s) : Coherent s.pumpResponses.2 := h.readResponses _

/-! ## Whole lives -/

/-- Every operation keeps the caches right. -/
theorem perform (h : Coherent s) (operation : Operation) : Coherent (s.perform operation) := by
  cases operation with
  | setQuery query now => exact setQuery s query now
  | tick now => exact (h.issueDueSearch now).pumpResponses
  | handOn now => exact h.issueDueSearch now
  | pump => exact h.pumpResponses
  | read => exact h.readResponse
  | setCandidates candidates => exact h.setCandidates candidates
  | select choice => exact h.select choice
  | remove key => exact h.remove key
  | moveHighlight direction => exact h.moveHighlight direction
  | commitHighlighted => exact h.commitHighlighted
  | press key => exact h.handleKey key
  | openList => exact h.openList
  | close => exact h.close
  | withHooks hooks => exact h.withHooks hooks
  | withSelected choices => exact h.withSelected choices

/-- Every action keeps the caches right. -/
theorem act (h : Coherent s) (action : Action) : Coherent (s.act action) := by
  cases action with
  | step step =>
    cases step with
    | operation operation => exact h.perform operation
    | worker move => exact h.withSearch _
  | attach => exact h.withSearch _

/-- The caches are right at every point of a life. -/
theorem live (config : Config) (candidates : List Choice) (actions : List Action) :
    Coherent ((Selector.ofChoices config candidates).live actions) :=
  Selector.live_induction (Prepared.empty config candidates).refilter
    (fun _ action kept => kept.act action) actions

/-- A view shows right caches as they are. -/
theorem snapshot (h : Coherent s) : s.snapshot.Coherent s.candidates s.config s.hooks where
  compiled := by
    show s.expression =
      s.hooks.compile (Text.normalizeQueryString s.config.ignoreDiacritics s.query)
    rw [← h.normalized, ← h.compiled]
  listed := by
    show s.filtered =
      filter _ (Text.normalizeQueryString s.config.ignoreDiacritics s.query) s.selected _ _
    rw [← h.normalized, ← h.listed]

end Coherent

/-- **The cached list is never stale.** After any actions of caller and worker on a new select list,
the normal form of the query, its expression and the list are what computing them anew from query,
candidates, selection, settings and hooks gives, and the view shows just these. -/
theorem cache_is_coherent (config : Config) (candidates : List Choice) (actions : List Action) :
    let s := (Selector.ofChoices config candidates).live actions
    Coherent s ∧ s.snapshot.Coherent s.candidates s.config s.hooks := by
  have coherent := Coherent.live config candidates actions
  exact ⟨coherent, coherent.snapshot⟩

end Picklist.Select
