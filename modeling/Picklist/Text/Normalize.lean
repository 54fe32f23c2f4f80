import Picklist.Unicode.Decomposition
import Picklist.Unicode.Mark
import Picklist.Unicode.WhiteSpace

/-!
# Normal form of searched text

A query is trimmed before it is matched. With folding on, accents do not count: a text is
decomposed and its combining marks are dropped, so that an accented letter reads as its base letter.
Texts of ASCII characters alone are their own folding.
-/

set_option autoImplicit false

namespace Picklist.Text

open Unicode

/-- Whether every character is ASCII. -/
def isAscii (cs : List Char) : Bool :=
  cs.all (·.toNat < 128)

/-- The canonical decomposition without its combining marks. -/
def stripMarks (cs : List Char) : List Char :=
  (canonicalDecomposition cs).filter (!isMark ·)

/-- The text as it is matched: without marks when `fold` is set, unchanged otherwise. -/
def normalize (fold : Bool) (cs : List Char) : List Char :=
  if fold && !isAscii cs then stripMarks cs else cs

/-- The query as it is matched: trimmed, then normalized. -/
def normalizeQuery (fold : Bool) (cs : List Char) : List Char :=
  normalize fold (trim cs)

/-- `stripMarks` on strings. -/
def stripMarksOf (s : String) : String :=
  String.ofList (stripMarks s.toList)

/-- `normalize` on strings. -/
def normalizeString (fold : Bool) (s : String) : String :=
  String.ofList (normalize fold s.toList)

/-- `normalizeQuery` on strings. -/
def normalizeQueryString (fold : Bool) (s : String) : String :=
  String.ofList (normalizeQuery fold s.toList)

end Picklist.Text
