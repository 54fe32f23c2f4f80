/-!
# Styles

Colours and text attributes. A style leaves open what it does not set, so styles can be laid on top
of each other; it can also take attributes away.
-/

set_option autoImplicit false

namespace Picklist.Terminal

/-- A colour of the terminal. -/
inductive Color where
  | reset
  | black
  | red
  | green
  | yellow
  | blue
  | magenta
  | cyan
  | gray
  | darkGray
  | lightBlue
  | white
  /-- A colour mixed from red, green and blue, each below 256. -/
  | rgb (red green blue : Nat)
  /-- An entry of the palette, below 256. -/
  | indexed (index : Nat)
  deriving Repr, DecidableEq, Inhabited

/-- A set of text attributes. -/
structure Modifiers where
  bold : Bool := false
  dim : Bool := false
  italic : Bool := false
  underlined : Bool := false
  reversed : Bool := false
  crossedOut : Bool := false
  deriving Repr, DecidableEq, Inhabited

namespace Modifiers

/-- No attribute. -/
def none : Modifiers := {}

/-- The attributes of either set. -/
def union (a b : Modifiers) : Modifiers where
  bold := a.bold || b.bold
  dim := a.dim || b.dim
  italic := a.italic || b.italic
  underlined := a.underlined || b.underlined
  reversed := a.reversed || b.reversed
  crossedOut := a.crossedOut || b.crossedOut

/-- The attributes of the first set that are not in the second. -/
def diff (a b : Modifiers) : Modifiers where
  bold := a.bold && !b.bold
  dim := a.dim && !b.dim
  italic := a.italic && !b.italic
  underlined := a.underlined && !b.underlined
  reversed := a.reversed && !b.reversed
  crossedOut := a.crossedOut && !b.crossedOut

end Modifiers

/-- What a piece of text looks like, as far as that is set. -/
structure Style where
  fg : Option Color := none
  bg : Option Color := none
  add : Modifiers := {}
  /-- Attributes that the style takes away. -/
  remove : Modifiers := {}
  deriving Repr, DecidableEq, Inhabited

namespace Style

/-- The style that sets nothing. -/
def plain : Style := {}

/-- The style with attributes taken away. -/
def removeModifiers (s : Style) (m : Modifiers) : Style :=
  { s with add := s.add.diff m, remove := s.remove.union m }

/-- Lays another style on top. -/
def patch (s top : Style) : Style where
  fg := top.fg <|> s.fg
  bg := top.bg <|> s.bg
  add := (s.add.diff top.remove).union top.add
  remove := (s.remove.diff top.add).union top.remove

end Style

end Picklist.Terminal
