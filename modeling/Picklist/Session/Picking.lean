import Picklist.Input.QueryInput
import Picklist.View.FieldView
import Picklist.View.SelectView

/-!
# Picking from a list

An input for the query above a select list. Enter picks the highlighted choice and ends the session;
where several choices can be selected it selects or deselects the highlighted one, and ends the
session when none is highlighted. Escape closes the list, and a second one gives up.
-/

set_option autoImplicit false

namespace Picklist.Session

open Terminal
open Select (Selector)
open Input (Key QueryInput)

/-- The end of a picking session. -/
structure PickOutcome where
  /-- Whether the selection was accepted; otherwise the session was given up. -/
  accepted : Bool
  query : String
  /-- The selected choices in order of selection. -/
  selected : List Choice
  deriving Repr, DecidableEq, Inhabited

/-- The symbols that take turns while a search is under way. -/
def spinnerSymbols : List String := ["⠷", "⠯", "⠟", "⠻", "⠽", "⠾"]

/-- The state after a turn of the spinner, which counts in a signed byte and starts again when that
overflows. -/
def nextTurn (turn : Nat) : Nat := if turn = 127 then 0 else turn + 1

/-- A picking session. -/
structure Picking where
  selector : Selector
  input : QueryInput
  theme : Theme := Theme.defaultTheme
  title : String := "Options"
  prompt : String := "Search"
  /-- The scroll position of the list. -/
  listState : ListState := {}
  spinner : Nat := 0

namespace Picking

/-- Starts a session on a select list: the list is opened, and the input holds its query. -/
def start (selector : Selector) : Picking :=
  { selector := selector.openList, input := .ofText selector.query }

/-- The outcome if the session ends now. -/
def outcome (p : Picking) (accepted : Bool) : PickOutcome where
  accepted := accepted
  query := p.selector.query
  selected := p.selector.selected.choices

/-- Hands a key to the select list. -/
def apply (p : Picking) (key : Select.Key) : Picking :=
  { p with selector := (p.selector.handleKey key).2 }

/-- What enter does. -/
def enter (p : Picking) : Option PickOutcome × Picking :=
  match p.selector.highlightedChoice? with
  | none => (some (p.outcome true), p)
  | some choice =>
    if !p.selector.config.multiple then
      let p := p.apply .enter
      (some (p.outcome true), p)
    else if p.selector.selected.contains choice.key then
      (none, { p with selector := (p.selector.remove choice.key).2 })
    else (none, p.apply .enter)

/-- Types a key into the input, and takes over the query if it changed. -/
def edit (p : Picking) (key : Key) (now : Nat) : Picking :=
  match p.input.press key with
  | (true, input) => { p with input, selector := p.selector.setQuery input.text now }
  | (false, input) => { p with input }

/-- Applies a key press. Answers with the outcome if it ends the session. -/
def handleKey (p : Picking) (key : Key) (now : Nat) : Option PickOutcome × Picking :=
  if key.isControl 'c' then (some (p.outcome false), p)
  else
    match key.code with
    | .escape => if p.selector.isOpen then (none, p.apply .escape) else (some (p.outcome false), p)
    | .up => (none, p.apply .up)
    | .down => (none, p.apply .down)
    | .tab => (none, p.apply .tab)
    | .enter => p.enter
    | .backspace =>
      if p.input.text.isEmpty then (none, p.apply .backspace) else (none, p.edit key now)
    | _ => (none, p.edit key now)

/-- Lets time pass; the spinner turns while a search is under way. -/
def tick (p : Picking) (now : Nat) : Picking :=
  let selector := (p.selector.tick now).2
  { p with selector, spinner := if selector.isSearching then nextTurn p.spinner else p.spinner }

/-- The heights of the rows of the screen. -/
structure Rows where
  input : Nat
  tokens : Nat
  list : Nat
  status : Nat
  deriving Repr, DecidableEq, Inhabited

/-- Shares out the rows of a screen: one each to the list, the status line, the input and the
selected choices, then the rest of the input's three, and what is left to the list. -/
def layout (height : Nat) (tokens : Bool) : Rows :=
  let list := min 1 height
  let status := min 1 (height - list)
  let free := height - list - status
  let input := min 1 free
  let chosen := if tokens then min 1 (free - input) else 0
  let more := min 2 (free - input - chosen)
  { input := input + more
    tokens := chosen
    list := list + (free - input - chosen - more)
    status }

/-- The look of the input. -/
def fieldLook (p : Picking) : View.FieldLook where
  pane := View.pane p.theme p.prompt
  style := p.theme.prompt
  placeholder := "Type to filter"
  placeholderStyle := p.theme.empty

/-- The status line: the spinner while a search is under way, and what the list reads out. -/
def statusLine (p : Picking) (view : View.SelectView) : StyledLine :=
  let symbol := spinnerSymbols.getD (p.spinner % spinnerSymbols.length) ""
  (if view.isSearching then
    [{ text := symbol ++ " ", style := p.theme.statusStyle : Segment }]
  else [])
    ++ [{ text := view.status, style := p.theme.statusStyle }]

/-- The view of the select list. -/
def view (p : Picking) : View.SelectView := View.selectView p.selector.snapshot p.theme

/-- Paints the session with a view of a select list. -/
def paint (p : Picking) (view : View.SelectView) (s : Screen) : Screen × Picking :=
  let area := s.area.withoutSideColumns
  let rows := layout area.height view.tokens.isSome
  let inputArea := { area with height := rows.input }
  let tokensArea := { area with y := inputArea.bottom, height := rows.tokens }
  let listArea := { area with y := tokensArea.bottom, height := rows.list }
  let statusArea := { area with y := listArea.bottom, height := rows.status }
  let (s, field) := View.paintField p.input.field p.fieldLook inputArea s
  let s := match view.tokens with
    | some tokens => s.paintParagraph tokensArea [tokens]
    | none => s
  let (s, listState) := view.paint p.theme p.title listArea p.listState s
  let s := s.paintParagraph statusArea [p.statusLine view]
  (s, { p with input := { field }, listState })

/-- Paints the session. -/
def draw (p : Picking) (s : Screen) : Screen × Picking := p.paint p.view s

end Picking

end Picklist.Session
