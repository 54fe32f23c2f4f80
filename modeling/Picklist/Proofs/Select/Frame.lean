import Picklist.Proofs.Select.Run

/-!
# What operations leave as it was

Listing the candidates anew changes the list of results and the highlight and nothing else. Most
operations of a caller therefore leave alone all that searches depend on: the exchange with the
worker, the waiting query, the candidates and the normalized query. The query itself is changed by
typing and by nothing else.
-/

set_option autoImplicit false

namespace Picklist.Select

namespace Selector

/-! ## Listing anew -/

/-- Highlighting the first result changes the highlight at most. -/
theorem applyAutoHighlight_eq (s : Selector) :
    ∃ highlighted, s.applyAutoHighlight = { s with highlighted } := by
  unfold applyAutoHighlight
  split
  · exact ⟨some 0, rfl⟩
  · exact ⟨s.highlighted, rfl⟩

/-- Where the highlight goes when a list wants one. -/
theorem applyAutoHighlight_highlighted (s : Selector) :
    s.applyAutoHighlight =
      { s with
        highlighted :=
          if s.config.autoHighlight && s.isOpen && s.highlighted.isNone && !s.filtered.isEmpty then
            some 0
          else s.highlighted } := by
  unfold applyAutoHighlight
  split <;> rfl

/-- Listing the candidates anew sets the results to what the filter lists, and changes the highlight
at most besides. -/
theorem refilter_eq (s : Selector) :
    ∃ highlighted, s.refilter =
      { s with
        filtered := filterWith s.candidates s.normalizedQuery s.expression s.selected s.config
          s.hooks
        highlighted } := by
  unfold refilter clampHighlight
  obtain ⟨highlighted, h⟩ := applyAutoHighlight_eq
    { s with
      filtered := filterWith s.candidates s.normalizedQuery s.expression s.selected s.config s.hooks
      highlighted :=
        if (filterWith s.candidates s.normalizedQuery s.expression s.selected s.config
            s.hooks).isEmpty then none
        else s.highlighted.map fun index => min index ((filterWith s.candidates s.normalizedQuery
          s.expression s.selected s.config s.hooks).length - 1) }
  exact ⟨highlighted, h⟩

/-- Listing anew leaves the exchange with the worker alone. -/
@[simp]
theorem refilter_search (s : Selector) : s.refilter.search = s.search := by
  obtain ⟨_, h⟩ := refilter_eq s
  rw [h]

/-- Listing anew leaves the waiting query alone. -/
@[simp]
theorem refilter_pendingSearch (s : Selector) : s.refilter.pendingSearch = s.pendingSearch := by
  obtain ⟨_, h⟩ := refilter_eq s
  rw [h]

/-- Listing anew leaves the candidates alone. -/
@[simp]
theorem refilter_candidates (s : Selector) : s.refilter.candidates = s.candidates := by
  obtain ⟨_, h⟩ := refilter_eq s
  rw [h]

/-- Listing anew leaves the normal form of the query alone. -/
@[simp]
theorem refilter_normalizedQuery (s : Selector) :
    s.refilter.normalizedQuery = s.normalizedQuery := by
  obtain ⟨_, h⟩ := refilter_eq s
  rw [h]

/-- Listing anew leaves the settings alone. -/
@[simp]
theorem refilter_config (s : Selector) : s.refilter.config = s.config := by
  obtain ⟨_, h⟩ := refilter_eq s
  rw [h]

/-- Listing anew leaves the selection alone. -/
@[simp]
theorem refilter_selected (s : Selector) : s.refilter.selected = s.selected := by
  obtain ⟨_, h⟩ := refilter_eq s
  rw [h]

/-- Listing anew leaves the hooks alone. -/
@[simp]
theorem refilter_hooks (s : Selector) : s.refilter.hooks = s.hooks := by
  obtain ⟨_, h⟩ := refilter_eq s
  rw [h]

/-- Listing anew leaves the query alone. -/
@[simp]
theorem refilter_query (s : Selector) : s.refilter.query = s.query := by
  obtain ⟨_, h⟩ := refilter_eq s
  rw [h]

end Selector

/-! ## Operations that searches do not notice -/

/-- Two select lists that agree on all that searches depend on. -/
structure SameSearch (s t : Selector) : Prop where
  search : t.search = s.search
  pendingSearch : t.pendingSearch = s.pendingSearch
  candidates : t.candidates = s.candidates
  normalizedQuery : t.normalizedQuery = s.normalizedQuery

namespace SameSearch

variable {s t u : Selector}

/-- A select list agrees with itself. -/
theorem refl (s : Selector) : SameSearch s s := ⟨rfl, rfl, rfl, rfl⟩

/-- Agreement carries over. -/
theorem trans (h : SameSearch s t) (k : SameSearch t u) : SameSearch s u :=
  ⟨k.search.trans h.search, k.pendingSearch.trans h.pendingSearch,
    k.candidates.trans h.candidates, k.normalizedQuery.trans h.normalizedQuery⟩

/-- Listing the candidates anew is not noticed. -/
theorem refilter (h : SameSearch s t) : SameSearch s t.refilter :=
  h.trans ⟨by simp, by simp, by simp, by simp⟩

end SameSearch

namespace Selector

/-- Highlighting the first result is not noticed. -/
theorem sameSearch_applyAutoHighlight (s : Selector) : SameSearch s s.applyAutoHighlight := by
  obtain ⟨_, h⟩ := applyAutoHighlight_eq s
  rw [h]
  exact ⟨rfl, rfl, rfl, rfl⟩

/-- Selecting a choice is not noticed. -/
theorem sameSearch_select (s : Selector) (choice : Choice) : SameSearch s (s.select choice).2 := by
  unfold select
  split
  · exact .refl s
  · split
    · split
      · exact .refl s
      · exact SameSearch.refilter ⟨rfl, rfl, rfl, rfl⟩
    · split
      · exact ⟨rfl, rfl, rfl, rfl⟩
      · exact SameSearch.refilter ⟨rfl, rfl, rfl, rfl⟩

/-- Removing a choice is not noticed. -/
theorem sameSearch_remove (s : Selector) (key : String) : SameSearch s (s.remove key).2 := by
  unfold remove
  split
  · exact SameSearch.refilter ⟨rfl, rfl, rfl, rfl⟩
  · exact .refl s

/-- Committing the highlighted choice is not noticed. -/
theorem sameSearch_commitHighlighted (s : Selector) : SameSearch s s.commitHighlighted.2 := by
  unfold commitHighlighted
  split
  · exact sameSearch_select s _
  · exact .refl s

/-- Arrows are not noticed. -/
theorem sameSearch_arrow (s : Selector) (direction : Direction) :
    SameSearch s (s.arrow direction) := by
  unfold arrow
  split
  · exact ⟨rfl, rfl, rfl, rfl⟩
  · dsimp only
    split <;> exact ⟨rfl, rfl, rfl, rfl⟩

/-- Keys are not noticed. -/
theorem sameSearch_handleKey (s : Selector) (key : Key) : SameSearch s (s.handleKey key).2 := by
  unfold handleKey
  cases key with
  | up => exact sameSearch_arrow s .backward
  | down => exact sameSearch_arrow s .forward
  | enter =>
    dsimp only
    split
    · exact sameSearch_commitHighlighted s
    · exact .refl s
  | escape => exact ⟨rfl, rfl, rfl, rfl⟩
  | tab => exact ⟨rfl, rfl, rfl, rfl⟩
  | backspace =>
    dsimp only
    split
    · split
      · exact sameSearch_remove s _
      · exact .refl s
    · exact .refl s

end Selector

/-- Whether an operation can touch what searches depend on. -/
def Operation.concernsSearch : Operation → Bool
  | .setQuery _ _ | .tick _ | .handOn _ | .pump | .read | .setCandidates _ => true
  | _ => false

/-- The other operations are not noticed. -/
theorem Selector.sameSearch_perform (s : Selector) {operation : Operation}
    (other : operation.concernsSearch = false) : SameSearch s (s.perform operation) := by
  cases operation with
  | setQuery | tick | handOn | pump | read | setCandidates => cases other
  | select choice => exact s.sameSearch_select choice
  | remove key => exact s.sameSearch_remove key
  | moveHighlight direction => exact ⟨rfl, rfl, rfl, rfl⟩
  | commitHighlighted => exact s.sameSearch_commitHighlighted
  | press key => exact s.sameSearch_handleKey key
  | openList =>
    have same : SameSearch s { s with isOpen := true } := ⟨rfl, rfl, rfl, rfl⟩
    exact same.trans (sameSearch_applyAutoHighlight _)
  | close => exact ⟨rfl, rfl, rfl, rfl⟩
  | withHooks hooks => exact SameSearch.refilter ⟨rfl, rfl, rfl, rfl⟩
  | withSelected choices => exact SameSearch.refilter ⟨rfl, rfl, rfl, rfl⟩

/-! ## The query -/

/-- Whether an operation types a query. -/
def Operation.isTyping : Operation → Bool
  | .setQuery _ _ => true
  | _ => false

namespace Selector

/-- Typing sets the query, whether or not there is a provider. -/
theorem setQuery_query (s : Selector) (query : String) (now : Nat) :
    (s.setQuery query now).query = query := by
  have changed : (s.changeQuery query).query = query := refilter_query _
  unfold setQuery issueDueSearch
  dsimp only
  split
  · split <;> exact changed
  · exact changed

/-- Highlighting the first result leaves the query alone. -/
theorem applyAutoHighlight_query (s : Selector) : s.applyAutoHighlight.query = s.query := by
  obtain ⟨_, same⟩ := applyAutoHighlight_eq s
  rw [same]

/-- Handing the query on leaves it as it is. -/
theorem issueDueSearch_query (s : Selector) (now : Nat) :
    (s.issueDueSearch now).query = s.query := by
  unfold issueDueSearch
  split <;> rfl

/-- An answer leaves the query alone. -/
theorem handleResponse_query (s : Selector) (response : Response) :
    (s.handleResponse response).2.query = s.query := by
  unfold handleResponse
  split
  · rfl
  · split
    · dsimp only
      split
      · exact refilter_query _
      · rfl
    · rfl

/-- A turn of a pump leaves the query alone. -/
theorem readResponse_query (s : Selector) : s.readResponse.2.query = s.query := by
  unfold readResponse
  split
  · rfl
  · split
    · exact handleResponse_query _ _
    · rfl

/-- Turns of a pump leave the query alone. -/
theorem readResponses_query (s : Selector) (turns : Nat) :
    (s.readResponses turns).2.query = s.query := by
  induction turns generalizing s with
  | zero => rfl
  | succ turns ih => exact (ih s.readResponse.2).trans s.readResponse_query

/-- Selecting a choice leaves the query alone. -/
theorem select_query (s : Selector) (choice : Choice) : (s.select choice).2.query = s.query := by
  unfold select
  split
  · rfl
  · split
    · split
      · rfl
      · exact refilter_query _
    · split
      · rfl
      · exact refilter_query _

/-- Removing a choice leaves the query alone. -/
theorem remove_query (s : Selector) (key : String) : (s.remove key).2.query = s.query := by
  unfold remove
  split
  · exact refilter_query _
  · rfl

/-- Committing the highlighted choice leaves the query alone. -/
theorem commitHighlighted_query (s : Selector) : s.commitHighlighted.2.query = s.query := by
  unfold commitHighlighted
  split
  · exact s.select_query _
  · rfl

/-- Arrows leave the query alone. -/
theorem arrow_query (s : Selector) (direction : Direction) :
    (s.arrow direction).query = s.query := by
  unfold arrow
  split
  · rfl
  · dsimp only
    split <;> rfl

/-- Keys leave the query alone. -/
theorem handleKey_query (s : Selector) (key : Key) : (s.handleKey key).2.query = s.query := by
  unfold handleKey
  cases key with
  | up => exact s.arrow_query .backward
  | down => exact s.arrow_query .forward
  | enter =>
    dsimp only
    split
    · exact s.commitHighlighted_query
    · rfl
  | escape => rfl
  | tab => rfl
  | backspace =>
    dsimp only
    split
    · split
      · exact s.remove_query _
      · rfl
    · rfl

/-- Only typing changes the query. -/
theorem perform_query (s : Selector) {operation : Operation} (silent : operation.isTyping = false) :
    (s.perform operation).query = s.query := by
  cases operation with
  | setQuery query now => cases silent
  | tick now => exact (readResponses_query _ _).trans (s.issueDueSearch_query now)
  | handOn now => exact s.issueDueSearch_query now
  | pump => exact s.readResponses_query _
  | read => exact s.readResponse_query
  | setCandidates candidates => exact refilter_query _
  | select choice => exact s.select_query choice
  | remove key => exact s.remove_query key
  | moveHighlight direction => rfl
  | commitHighlighted => exact s.commitHighlighted_query
  | press key => exact s.handleKey_query key
  | openList => exact applyAutoHighlight_query _
  | close => rfl
  | withHooks hooks => exact refilter_query _
  | withSelected choices => exact refilter_query _

end Selector

end Picklist.Select
