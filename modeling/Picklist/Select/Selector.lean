import Picklist.Direction
import Picklist.Select.Exchange
import Picklist.Select.Filter
import Picklist.Timing.Debouncer

/-!
# Selectors

The state behind a select list that can be filtered. The cached candidates are filtered at once when
the query changes. With a search provider the query is also handed on, after a quiet period, and the
answer to the latest search replaces the candidates.
-/

set_option autoImplicit false

namespace Picklist.Select

/-- A change of the selection. -/
inductive Event where
  /-- The choice was added to the selection, or became it. -/
  | selected (choice : Choice)
  /-- The choice was removed from the selection. -/
  | removed (choice : Choice)
  deriving Repr, DecidableEq

/-- The keys that a select list understands. -/
inductive Key where
  | up
  | down
  | enter
  | escape
  /-- Remove the last selected choice when the query is empty. -/
  | backspace
  /-- Leave the control, which closes the list. -/
  | tab
  deriving Repr, DecidableEq, Inhabited

/-- What a list of results reads out. -/
inductive Announcement where
  | noResults
  | results (count : Nat)
  deriving Repr, DecidableEq

/-- The words of an announcement. -/
def Announcement.text : Announcement → String
  | noResults => "No results."
  | results 1 => "1 result found, use up and down arrow keys to navigate."
  | results count => s!"{count} results found, use up and down arrow keys to navigate."

/-- A select list. -/
structure Selector where
  config : Config
  hooks : Hooks := {}
  candidates : List Choice
  /-- The query as it was typed. -/
  query : String := ""
  normalizedQuery : String := ""
  /-- The expression of the normalized query. -/
  expression : Expression := {}
  filtered : List Choice := []
  selected : Selection := {}
  /-- The place in the list of results that is highlighted. -/
  highlighted : Option Nat := none
  isOpen : Bool := false
  /-- The query that waits for its quiet period. -/
  pendingSearch : Timing.Debouncer String := { delay := config.searchDebounce }
  /-- The search worker, if there is a provider. -/
  search : Option Exchange := none

namespace Selector

/-- Highlights the first result where the settings want one to be highlighted. -/
def applyAutoHighlight (s : Selector) : Selector :=
  if s.config.autoHighlight && s.isOpen && s.highlighted.isNone && !s.filtered.isEmpty then
    { s with highlighted := some 0 }
  else s

/-- Keeps the highlight inside the list of results. -/
def clampHighlight (s : Selector) : Selector :=
  let highlighted :=
    if s.filtered.isEmpty then none
    else s.highlighted.map fun index => min index (s.filtered.length - 1)
  { s with highlighted }.applyAutoHighlight

/-- Lists the candidates anew. -/
def refilter (s : Selector) : Selector :=
  let filtered :=
    filterWith s.candidates s.normalizedQuery s.expression s.selected s.config s.hooks
  { s with filtered }.clampHighlight

/-- A closed select list without a query. -/
def ofChoices (config : Config) (candidates : List Choice) : Selector :=
  refilter { config, candidates }

/-- Installs hooks and lists the candidates with them. -/
def withHooks (s : Selector) (hooks : Hooks) : Selector :=
  { s with hooks, expression := hooks.compile s.normalizedQuery }.refilter

/-- Attaches a search provider, with a worker of its own. -/
def withProvider (s : Selector) : Selector :=
  { s with search := some {} }

/-- Inserts choices into the selection without an event; in a list for a single choice each replaces
what was selected before. -/
def withSelected (s : Selector) (choices : List Choice) : Selector :=
  let insert (selected : Selection) (choice : Choice) : Selection :=
    if s.config.multiple then selected.insert choice else Selection.insert {} choice
  { s with selected := choices.foldl insert s.selected }.refilter

/-- Replaces the candidates. -/
def setCandidates (s : Selector) (candidates : List Choice) : Selector :=
  { s with candidates }.refilter

/-- The highlighted choice. -/
def highlightedChoice? (s : Selector) : Option Choice :=
  s.highlighted.bind (s.filtered[·]?)

/-- Whether an answer of the worker is awaited. -/
def isAwaiting (s : Selector) : Bool := s.search.any (·.inFlight)

/-- Whether a search waits for its quiet period or for its answer. -/
def isSearching (s : Selector) : Bool :=
  s.pendingSearch.isPending || s.isAwaiting

/-- Shows the list. -/
def openList (s : Selector) : Selector :=
  { s with isOpen := true }.applyAutoHighlight

/-- Hides the list and drops the highlight. -/
def close (s : Selector) : Selector :=
  { s with isOpen := false, highlighted := none }

/-- Hands on the waiting query if its quiet period is over. -/
def issueDueSearch (s : Selector) (now : Nat) : Selector :=
  match s.pendingSearch.poll now with
  | (some query, pendingSearch) =>
    { s with pendingSearch, search := s.search.map (·.issue query s.candidates) }
  | (none, pendingSearch) => { s with pendingSearch }

/-- Changes the query, lists the candidates for it and shows them. -/
def changeQuery (s : Selector) (query : String) : Selector :=
  let normalizedQuery := Text.normalizeQueryString s.config.ignoreDiacritics query
  { s with
    query, normalizedQuery
    expression := s.hooks.compile normalizedQuery
    isOpen := true }.refilter

/-- Schedules the normalized query for a search. -/
def scheduleSearch (s : Selector) (now : Nat) : Selector :=
  { s with pendingSearch := s.pendingSearch.schedule s.normalizedQuery now }

/-- Changes the query, lists the candidates for it and shows them; with a provider the query is also
scheduled for a search. -/
def setQuery (s : Selector) (query : String) (now : Nat) : Selector :=
  let s := s.changeQuery query
  if s.search.isSome then (s.scheduleSearch now).issueDueSearch now else s

/-- Applies one answer of the worker; an answer to any search but the latest is dropped. Says
whether it changed the candidates. -/
def handleResponse (s : Selector) (response : Response) : Bool × Selector :=
  match s.search with
  | none => (false, s)
  | some exchange =>
    if exchange.isLatest response.id then
      let s := { s with search := some (exchange.complete response.id) }
      match response.outcome with
      | .ok candidates => (true, { s with candidates }.refilter)
      | .error _ => (false, s)
    else (false, s)

/-- Reads the oldest answer of the worker and applies it. When there is none it is noticed whether
the worker has ended. Says whether the candidates changed. -/
def readResponse (s : Selector) : Bool × Selector :=
  match s.search with
  | none => (false, s)
  | some exchange =>
    match exchange.responses with
    | response :: rest =>
      { s with search := some { exchange with responses := rest } }.handleResponse response
    | [] => (false, { s with search := some exchange.noticeStop })

/-- Reads a number of times. Says whether the candidates changed. -/
def readResponses (s : Selector) : Nat → Bool × Selector
  | 0 => (false, s)
  | turns + 1 =>
    let (changed, s) := s.readResponse
    let (later, s) := s.readResponses turns
    (changed || later, s)

/-- The answers of the worker that have not been read, oldest first. -/
def responses (s : Selector) : List Response :=
  match s.search with
  | some exchange => exchange.responses
  | none => []

/-- Reads all answers of the worker and, after the last, notices whether it has ended. Says whether
the candidates changed. -/
def pumpResponses (s : Selector) : Bool × Selector :=
  s.readResponses (s.responses.length + 1)

/-- Lets time pass: hands on a query whose quiet period is over and reads the answers. Says whether
the candidates changed. -/
def tick (s : Selector) (now : Nat) : Bool × Selector :=
  (s.issueDueSearch now).pumpResponses

/-- Adds the choice to the selection, or makes it the selection of a list for a single choice.
Choosing again what is selected changes nothing, but closes a list for a single choice. -/
def select (s : Selector) (choice : Choice) : Option Event × Selector :=
  if choice.disabled then (none, s)
  else if s.config.multiple then
    if s.selected.contains choice.key then (none, s)
    else (some (.selected choice), { s with selected := s.selected.insert choice }.refilter)
  else if s.selected.size = 1 ∧ s.selected.contains choice.key then (none, s.close)
  else
    (some (.selected choice), { s with selected := Selection.insert {} choice }.close.refilter)

/-- Removes the choice with the key from the selection. -/
def remove (s : Selector) (key : String) : Option Event × Selector :=
  match s.selected.find? key with
  | some choice => (some (.removed choice), { s with selected := s.selected.erase key }.refilter)
  | none => (none, s)

/-- Moves the highlight one step; without a highlight it enters the list at the end the step comes
from. -/
def moveHighlight (s : Selector) (direction : Direction) : Option Nat × Selector :=
  let length := s.filtered.length
  let highlighted :=
    if length = 0 then none
    else
      match s.highlighted with
      | some index => direction.stepWrapping index length
      | none => some (direction.entry length)
  (highlighted, { s with highlighted })

/-- Selects the highlighted choice. -/
def commitHighlighted (s : Selector) : Option Event × Selector :=
  match s.highlightedChoice? with
  | some choice => s.select choice
  | none => (none, s)

/-- An arrow key: moves the highlight of an open list, and opens a closed one. -/
def arrow (s : Selector) (direction : Direction) : Selector :=
  if s.isOpen then (s.moveHighlight direction).2
  else
    let s := { s with isOpen := true }
    if s.highlighted.isNone then (s.moveHighlight direction).2 else s

/-- Applies a key. -/
def handleKey (s : Selector) (key : Key) : Option Event × Selector :=
  match key with
  | .up => (none, s.arrow .backward)
  | .down => (none, s.arrow .forward)
  | .enter => if s.isOpen then s.commitHighlighted else (none, s)
  | .escape => (none, s.close)
  | .tab => (none, s.close)
  | .backspace =>
    if s.config.multiple && s.query.isEmpty then
      match s.selected.last? with
      | some choice => s.remove choice.key
      | none => (none, s)
    else (none, s)

/-- What the open list reads out. -/
def announcement (s : Selector) : Option Announcement :=
  if !s.isOpen then none
  else
    match s.filtered.length with
    | 0 => if s.normalizedQuery.isEmpty then none else some .noResults
    | count => some (.results count)

end Selector

/-- A view of a select list. -/
structure Snapshot where
  /-- The query as it was typed. -/
  query : String
  /-- The expression of the normalized query. -/
  expression : Expression
  /-- Accents do not count in matching. -/
  ignoreDiacritics : Bool
  filtered : List Choice
  /-- The place in the list of results that is highlighted. -/
  highlighted : Option Nat
  selected : Selection
  isOpen : Bool
  /-- Whether a search is under way. -/
  isSearching : Bool
  /-- Several choices can be selected at a time. -/
  multiple : Bool
  /-- What the open list reads out. -/
  announcement : Option Announcement

/-- The current view. -/
def Selector.snapshot (s : Selector) : Snapshot where
  query := s.query
  expression := s.expression
  ignoreDiacritics := s.config.ignoreDiacritics
  filtered := s.filtered
  highlighted := s.highlighted
  selected := s.selected
  isOpen := s.isOpen
  isSearching := s.isSearching
  multiple := s.config.multiple
  announcement := s.announcement

namespace Snapshot

/-- Whether the result at the place is highlighted. -/
def isHighlighted (s : Snapshot) (index : Nat) : Bool :=
  s.highlighted == some index

/-- Whether the choice is selected. -/
def isSelected (s : Snapshot) (choice : Choice) : Bool :=
  s.selected.contains choice.key

/-- The byte ranges of a label that match the query. -/
def matchRanges (s : Snapshot) (label : String) : List (Nat × Nat) :=
  s.expression.labelRanges s.ignoreDiacritics label

end Snapshot

end Picklist.Select
