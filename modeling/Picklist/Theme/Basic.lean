import Picklist.Terminal.Style
import Picklist.Unicode.WhiteSpace

/-!
# Themes

A theme gives a style to every part of the lists. Themes are looked up by name or by one of their
other names; the case of ASCII letters does not count.
-/

set_option autoImplicit false

namespace Picklist

open Terminal

/-- The styles of a list. -/
structure Theme where
  header : Style
  /-- The highlighted choice or the focused row. -/
  rowHighlight : Style
  prompt : Style
  /-- Placeholders and texts of empty lists. -/
  empty : Style
  /-- The matching part of a label. -/
  highlight : Style
  selected : Style
  /-- The item that is being moved. -/
  moving : Style
  /-- Items that are pinned to their place. -/
  pinned : Style
  /-- The item that has just been dropped. -/
  settling : Style
  deriving Repr, DecidableEq, Inhabited

namespace Theme

/-- Borders take the text colour of the header. -/
def borderStyle (t : Theme) : Style := { fg := some (t.header.fg.getD .reset) }

/-- The status line looks like an empty list, but upright. -/
def statusStyle (t : Theme) : Style := t.empty.removeModifiers { italic := true }

end Theme

/-- A theme with the names that it answers to. -/
structure NamedTheme where
  name : String
  aliases : List String := []
  theme : Theme
  deriving Repr, DecidableEq, Inhabited

/-- The text with its ASCII letters in lower case. -/
def asciiLower (s : String) : String :=
  String.ofList (s.toList.map Char.toLower)

/-- Whether the theme goes by the given name. -/
def NamedTheme.answersTo (t : NamedTheme) (name : String) : Bool :=
  (t.name :: t.aliases).any fun own => asciiLower own == asciiLower name

end Picklist
