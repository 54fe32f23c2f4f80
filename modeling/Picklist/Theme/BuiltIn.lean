import Picklist.Theme.Basic

/-!
# The built-in themes

A dark theme, which is the default, one without colours and a light one.
-/

set_option autoImplicit false

namespace Picklist.Theme

open Terminal

/-- The style of a text colour. -/
def ink (fg : Color) (add : Modifiers := {}) : Style := { fg := some fg, add }

/-- The style of a text colour on a background. -/
def inkOn (fg bg : Color) (add : Modifiers := {}) : Style := { fg := some fg, bg := some bg, add }

/-- The dark theme. -/
def dark : Theme where
  header := ink (.rgb 0x7a 0xa2 0xf7) { bold := true }
  rowHighlight := inkOn (.rgb 0xc0 0xca 0xf5) (.rgb 0x28 0x34 0x57)
  prompt := ink (.rgb 0xbb 0x9a 0xf7) { bold := true }
  empty := ink (.rgb 0x56 0x5f 0x89) { italic := true }
  highlight := ink (.rgb 0xff 0x9e 0x64) { bold := true }
  selected := inkOn (.rgb 0x1a 0x1b 0x26) (.rgb 0x9e 0xce 0x6a)
  moving := inkOn (.rgb 0x1a 0x1b 0x26) (.rgb 0xe0 0xaf 0x68) { bold := true }
  pinned := ink (.rgb 0x56 0x5f 0x89)
  settling := ink (.rgb 0x9e 0xce 0x6a) { bold := true }

/-- The theme without colours. -/
def mono : Theme where
  header := { add := { bold := true } }
  rowHighlight := { add := { reversed := true } }
  prompt := { add := { bold := true } }
  empty := { add := { dim := true } }
  highlight := { add := { underlined := true } }
  selected := { add := { bold := true, underlined := true } }
  moving := { add := { reversed := true, bold := true } }
  pinned := { add := { dim := true } }
  settling := { add := { bold := true } }

/-- The light theme. -/
def slate : Theme where
  header := ink (.rgb 0x1f 0x4e 0x79) { bold := true }
  rowHighlight := inkOn (.rgb 0x0b 0x1f 0x33) (.rgb 0xc9 0xd6 0xe3)
  prompt := ink (.rgb 0x5b 0x2c 0x83) { bold := true }
  empty := ink (.rgb 0x6b 0x77 0x85) { italic := true }
  highlight := ink (.rgb 0xb5 0x47 0x0b) { bold := true }
  selected := inkOn (.rgb 0xff 0xff 0xff) (.rgb 0x2f 0x7d 0x32)
  moving := inkOn (.rgb 0 0 0) (.rgb 0xf2 0xc1 0x4e) { bold := true }
  pinned := ink (.rgb 0x8a 0x94 0xa0)
  settling := ink (.rgb 0x2f 0x7d 0x32) { bold := true }

/-- All built-in themes. -/
def builtIn : List NamedTheme := [
  { name := "default", aliases := ["dark"], theme := dark },
  { name := "mono", aliases := ["plain", "no-color"], theme := mono },
  { name := "slate", aliases := ["light"], theme := slate }]

/-- The theme that is used when none is asked for. -/
def defaultTheme : Theme := dark

/-- The names of the built-in themes. -/
def names : List String := builtIn.map NamedTheme.name

/-- The built-in theme with the given name; white space around the name does not count. -/
def named? (name : String) : Option NamedTheme :=
  builtIn.find? (·.answersTo (Unicode.trimString name))

/-- The styles of the built-in theme with the given name. -/
def byName? (name : String) : Option Theme :=
  (named? name).map NamedTheme.theme

end Picklist.Theme
