import Picklist.Choice

/-!
# Selections

A selection holds choices in the order in which they were selected, at most one for each key.
-/

set_option autoImplicit false

namespace Picklist.Select

/-- The selected choices in order of selection. -/
structure Selection where
  choices : List Choice := []
  deriving Repr, DecidableEq, Inhabited

namespace Selection

/-- Whether a choice with the key is selected. -/
def contains (s : Selection) (key : String) : Bool :=
  s.choices.any (·.key == key)

/-- The selected choice with the key. -/
def find? (s : Selection) (key : String) : Option Choice :=
  s.choices.find? (·.key == key)

/-- Adds a choice at the end, or puts it into the place of the choice that has its key. -/
def insert (s : Selection) (choice : Choice) : Selection :=
  if s.contains choice.key then
    { choices := s.choices.map fun c => if c.key == choice.key then choice else c }
  else { choices := s.choices ++ [choice] }

/-- Removes the choice with the key; the others keep their order. -/
def erase (s : Selection) (key : String) : Selection :=
  { choices := s.choices.eraseP (·.key == key) }

/-- Inserts choices one after the other. -/
def insertMany (s : Selection) (choices : List Choice) : Selection :=
  choices.foldl insert s

/-- The choice that was added last. -/
def last? (s : Selection) : Option Choice := s.choices.getLast?

/-- Whether nothing is selected. -/
def isEmpty (s : Selection) : Bool := s.choices.isEmpty

/-- How many choices are selected. -/
def size (s : Selection) : Nat := s.choices.length

end Selection

end Picklist.Select
