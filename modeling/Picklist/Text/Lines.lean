/-!
# Lines

A text is split into lines at line feeds. A carriage return before a line feed goes with it, and a
line feed at the very end starts no further line.
-/

set_option autoImplicit false

namespace Picklist.Text

/-- The line without a carriage return at its end. -/
def dropReturn (line : List Char) : List Char :=
  if line.getLast? = some '\r' then line.dropLast else line

/-- The lines of a text whose current line begins with the characters of `current`, given in
reverse. -/
def linesFrom (current : List Char) : List Char → List (List Char)
  | [] => if current.isEmpty then [] else [current.reverse]
  | c :: rest =>
    if c = '\n' then dropReturn current.reverse :: linesFrom [] rest
    else linesFrom (c :: current) rest

/-- The lines of a text. -/
def lines (cs : List Char) : List (List Char) := linesFrom [] cs

/-- The lines of a string. -/
def stringLines (s : String) : List String :=
  (lines s.toList).map String.ofList

end Picklist.Text
