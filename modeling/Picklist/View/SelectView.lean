import Picklist.Select.Selector
import Picklist.Terminal.Rows
import Picklist.Terminal.Paragraph
import Picklist.Theme.BuiltIn

/-!
# How a select list looks

A view has one row for every listed choice while the list is open. The matching parts of a label are
highlighted by cutting it at the matches, and a check mark stands in front of it where several
choices can be selected. The selected choices are shown side by side, and a closed or empty list
shows a message.
-/

set_option autoImplicit false

namespace Picklist.View

open Terminal

/-- Why a list shows no rows. -/
inductive EmptyMessage where
  | closed
  | searching
  | noQuery
  | noResults
  deriving Repr, DecidableEq, Inhabited

/-- The words of the message. -/
def EmptyMessage.text : EmptyMessage → String
  | closed => "Press ↓ to show options"
  | searching => "Searching…"
  | noQuery => "Type to search"
  | noResults => "No results"

/-- The parts of a select list. -/
structure SelectView where
  /-- One line for every listed choice. -/
  rows : List StyledLine
  highlighted : Option Nat
  /-- The selected choices, if there are any. -/
  tokens : Option StyledLine
  /-- What is shown in place of the rows when there are none. -/
  emptyMessage : EmptyMessage
  status : String
  /-- Whether a search is under way. -/
  isSearching : Bool
  deriving Repr, DecidableEq, Inhabited

/-- Cuts a label at spans in ascending order. The spans take the given style, what lies between them
the plain one; `done` characters have been dealt with. -/
def cutLabel (label : List Char) (style : Style) (done : Nat) : List Text.Span → StyledLine
  | [] => if done < label.length then [{ text := String.ofList (label.drop done) }] else []
  | span :: spans =>
    let gap := Text.Span.slice label ⟨done, span.start⟩
    let between : StyledLine := if done < span.start then [{ text := String.ofList gap }] else []
    between ++ { text := String.ofList (span.slice label), style } ::
      cutLabel label style span.stop spans

/-- The mark in front of a choice where several can be selected. -/
def checkMark (theme : Theme) (selected : Bool) : Segment :=
  if selected then { text := "[x] ", style := theme.selected } else { text := "[ ] " }

/-- The row of a choice. -/
def choiceRow (s : Select.Snapshot) (theme : Theme) (choice : Choice) : StyledLine :=
  let label := choice.label.toList
  let spans := s.expression.labelSpans s.ignoreDiacritics label
  (if s.multiple then [checkMark theme (s.isSelected choice)] else [])
    ++ cutLabel label theme.highlight 0 spans

/-- The selected choices side by side. -/
def tokenLine (theme : Theme) (choices : List Choice) : StyledLine :=
  let token (c : Choice) : Segment := { text := " " ++ c.label ++ " ", style := theme.selected }
  (choices.map token).intersperse
    { text := " " }

/-- The message for a list without rows. -/
def emptyMessage (s : Select.Snapshot) : EmptyMessage :=
  if !s.isOpen then .closed
  else if s.isSearching then .searching
  else if (Unicode.trim s.query.toList).isEmpty then .noQuery
  else .noResults

/-- The view of a select list. -/
def selectView (s : Select.Snapshot) (theme : Theme) : SelectView where
  rows := if s.isOpen then s.filtered.map (choiceRow s theme) else []
  highlighted := if s.isOpen then s.highlighted else none
  tokens := if s.selected.isEmpty then none else some (tokenLine theme s.selected.choices)
  emptyMessage := emptyMessage s
  status := (s.announcement.map Select.Announcement.text).getD ""
  isSearching := s.isSearching

/-- The plain text of every row. -/
def SelectView.rowTexts (v : SelectView) : List String :=
  v.rows.map StyledLine.plainText

/-- The pane around a list; without a title its border is closed. -/
def pane (theme : Theme) (title : String) : Pane where
  title := title
  borderStyle := theme.borderStyle
  titleStyle := theme.header

/-- How the highlighted row of a select list is marked. -/
def listLook (theme : Theme) : ListLook where
  symbol := ['▶', ' ']
  highlight := theme.rowHighlight

/-- Paints a select list into an area and keeps its scroll position up to date. -/
def SelectView.paint (v : SelectView) (theme : Theme) (title : String) (area : Area)
    (state : ListState) (s : Screen) : Screen × ListState :=
  let s := s.paintPane area (pane theme title)
  if v.rows.isEmpty then
    (s.paintParagraph area.inside [[{ text := v.emptyMessage.text }]] theme.empty .center,
      state.select none)
  else s.paintRows area.inside (listLook theme) (state.select v.highlighted) v.rows

end Picklist.View
