import Picklist.Unicode.CaseFold
import Picklist.Unicode.WhiteSpace
import Picklist.Unicode.Word

/-!
# Sets of characters in a pattern

Bracketed classes and the shorthand classes are set expressions, read as predicates on characters.
-/

set_option autoImplicit false

namespace Picklist.Pattern

/-- A set of characters. -/
inductive CharSet where
  | empty
  /-- All characters from `first` to `last`. -/
  | range (first last : Char)
  | digit
  | space
  | word
  /-- Members of one set or the other. -/
  | union (s t : CharSet)
  | intersection (s t : CharSet)
  | complement (s : CharSet)
  /-- Characters that equal a member up to case. -/
  | anyCase (s : CharSet)
  deriving Repr, DecidableEq, Inhabited

namespace CharSet

/-- Whether the character is a member. -/
def contains : CharSet → Char → Bool
  | empty, _ => false
  | range first last, c => first.toNat ≤ c.toNat && c.toNat ≤ last.toNat
  | digit, c => Unicode.isDecimalDigit c
  | space, c => Unicode.isWhiteSpace c
  | word, c => Unicode.isWordCharacter c
  | union s t, c => s.contains c || t.contains c
  | intersection s t, c => s.contains c && t.contains c
  | complement s, c => !s.contains c
  | anyCase s, c => (Unicode.caseVariants c).any s.contains

/-- The set with one member. -/
def single (c : Char) : CharSet := range c c

/-- The set of the members of a list of sets. -/
def unions (sets : List CharSet) : CharSet :=
  sets.foldl union empty

/-- Members of `s` that are not in `t`. -/
def difference (s t : CharSet) : CharSet :=
  intersection s (complement t)

/-- The set with every range widened to the characters that equal a member up to case. Complements
are taken after widening, so a character is excluded together with its case variants. -/
def ignoringCase : CharSet → CharSet
  | empty => empty
  | range first last => anyCase (range first last)
  | digit => digit
  | space => space
  | word => word
  | union s t => union s.ignoringCase t.ignoringCase
  | intersection s t => intersection s.ignoringCase t.ignoringCase
  | complement s => complement s.ignoringCase
  | anyCase s => anyCase s

/-- Members of exactly one of the two sets. -/
def symmetricDifference (s t : CharSet) : CharSet :=
  union (difference s t) (difference t s)

end CharSet

end Picklist.Pattern
