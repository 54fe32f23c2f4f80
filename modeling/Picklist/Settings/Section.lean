import Picklist.CommandLine.Arguments
import Picklist.Settings.Merge

/-!
# Sections of settings

The settings that are known, in three sections, each with what the sources say about it. What the
command line says replaces that.
-/

set_option autoImplicit false

namespace Picklist.Settings

/-- The settings of select lists. -/
structure SelectSection where
  multiple : Option Bool := none
  excludeSelected : Option Bool := none
  /-- Nothing is listed for an empty query. -/
  hideBeforeSearch : Option Bool := none
  /-- How many choices are listed at most. -/
  maxResults : Option Nat := none
  /-- How long a query must stay unchanged, in milliseconds. -/
  searchDebounce : Option Nat := none
  ignoreDiacritics : Option Bool := none
  autoHighlight : Option Bool := none
  searchCommand : Option String := none
  deriving Repr, DecidableEq, Inhabited

/-- The settings of arranged lists. -/
structure ArrangeSection where
  orientation : Option String := none
  /-- The least distance between two drop targets, in milliseconds. -/
  dragThrottle : Option Nat := none
  /-- How long a dropped item is marked, in milliseconds. -/
  settleDelay : Option Nat := none
  deriving Repr, DecidableEq, Inhabited

/-- The settings of what is on display. -/
structure DisplaySection where
  theme : Option String := none
  title : Option String := none
  prompt : Option String := none
  initialQuery : Option String := none
  deriving Repr, DecidableEq, Inhabited

/-- All sections. -/
structure Sections where
  select : SelectSection := {}
  arrange : ArrangeSection := {}
  /-- The settings of what is on display. -/
  display : DisplaySection := {}
  deriving Repr, DecidableEq, Inhabited

/-- The settings of a section: the entries of a table, or the items of an array in the order of the
settings. -/
def fields? (names : List String) : Value → Option Entries
  | .table entries => some entries
  | .array items => some (names.zip items)
  | _ => none

/-- Reads a setting; it may be missing or stand for nothing. -/
def optional {α : Type} (read : Value → Option α) (entries : Entries) (name : String) :
    Option (Option α) :=
  match entries.lookup name with
  | none => some none
  | some .nothing => some none
  | some v => (read v).map some

/-- The names of the settings of select lists. -/
def selectNames : List String :=
  ["multiple", "exclude_selected_options", "hide_before_search", "max_results",
    "search_debounce_ms", "ignore_diacritics", "auto_highlight", "search_command"]

/-- Reads the settings of select lists. -/
def selectSection? (v : Value) : Option SelectSection := do
  let entries ← fields? selectNames v
  let multiple ← optional Value.toFlag? entries "multiple"
  let excludeSelected ← optional Value.toFlag? entries "exclude_selected_options"
  let hideBeforeSearch ← optional Value.toFlag? entries "hide_before_search"
  let maxResults ← optional Value.toNat? entries "max_results"
  let searchDebounce ← optional Value.toNat? entries "search_debounce_ms"
  let ignoreDiacritics ← optional Value.toFlag? entries "ignore_diacritics"
  let autoHighlight ← optional Value.toFlag? entries "auto_highlight"
  let searchCommand ← optional Value.toText? entries "search_command"
  some {
    multiple := multiple
    excludeSelected := excludeSelected
    hideBeforeSearch := hideBeforeSearch
    maxResults := maxResults
    searchDebounce := searchDebounce
    ignoreDiacritics := ignoreDiacritics
    autoHighlight := autoHighlight
    searchCommand := searchCommand }

/-- The names of the settings of arranged lists. -/
def arrangeNames : List String := ["orientation", "drag_throttle_ms", "settle_delay_ms"]

/-- Reads the settings of arranged lists. -/
def arrangeSection? (v : Value) : Option ArrangeSection := do
  let entries ← fields? arrangeNames v
  let orientation ← optional Value.toText? entries "orientation"
  let dragThrottle ← optional Value.toNat? entries "drag_throttle_ms"
  let settleDelay ← optional Value.toNat? entries "settle_delay_ms"
  some { orientation := orientation, dragThrottle := dragThrottle, settleDelay := settleDelay }

/-- The names of the settings of what is on display. -/
def displayNames : List String := ["theme", "title", "prompt", "initial_query"]

/-- Reads the settings of what is on display. -/
def displaySection? (v : Value) : Option DisplaySection := do
  let entries ← fields? displayNames v
  let theme ← optional Value.toText? entries "theme"
  let title ← optional Value.toText? entries "title"
  let prompt ← optional Value.toText? entries "prompt"
  let initialQuery ← optional Value.toText? entries "initial_query"
  some { theme := theme, title := title, prompt := prompt, initialQuery := initialQuery }

/-- Reads a section; a missing one has no settings. -/
def sectionOr {α : Type} (fallback : α) (read : Value → Option α) (entries : Entries)
    (name : String) : Option α :=
  match entries.lookup name with
  | some v => read v
  | none => some fallback

/-- Reads all sections. -/
def sections? (entries : Entries) : Option Sections := do
  let select ← sectionOr {} selectSection? entries "select"
  let arrange ← sectionOr {} arrangeSection? entries "sortable"
  let display ← sectionOr {} displaySection? entries "ui"
  some { select := select, arrange := arrange, display := display }

/-! ## What the command line says -/

open CommandLine (Arguments SelectArguments)

/-- The setting of an option that can only be switched on. -/
def switchOn (asked : Bool) (setting : Option Bool) : Option Bool :=
  if asked then some true else setting

namespace Sections

/-- The settings with what the command line says about select lists. -/
def withSelectArguments (s : Sections) (a : SelectArguments) : Sections :=
  { s with
    select := {
      multiple := switchOn a.multiple s.select.multiple
      excludeSelected := switchOn a.excludeSelected s.select.excludeSelected
      hideBeforeSearch := switchOn a.hideBeforeSearch s.select.hideBeforeSearch
      ignoreDiacritics := switchOn a.ignoreDiacritics s.select.ignoreDiacritics
      autoHighlight := switchOn a.autoHighlight s.select.autoHighlight
      maxResults := a.maxResults <|> s.select.maxResults
      searchDebounce := a.debounce <|> s.select.searchDebounce
      searchCommand := a.searchCommand <|> s.select.searchCommand }
    display := { s.display with initialQuery := a.query <|> s.display.initialQuery } }

/-- The settings with a title. -/
def withTitle (s : Sections) (title : Option String) : Sections :=
  { s with display := { s.display with title := title <|> s.display.title } }

/-- The settings with what the command line says. -/
def withArguments (s : Sections) (a : Arguments) : Sections :=
  let s := { s with display := { s.display with theme := a.theme <|> s.display.theme } }
  match a.command with
  | some (.pick select title) => (s.withSelectArguments select).withTitle title
  | some (.filter select) => s.withSelectArguments select
  | some (.sort sort) =>
    let orientation := if sort.horizontal then some "horizontal" else s.arrange.orientation
    { s with arrange := { s.arrange with orientation } }.withTitle sort.title
  | none => s

end Sections

end Picklist.Settings
