/-!
# Sets of code points

A property of characters is written as the ascending list of the code point ranges that have it.
-/

set_option autoImplicit false

namespace Picklist.Unicode

/-- A set of code points: its ranges in ascending order, both ends included. -/
abbrev CodeRanges := List (Nat × Nat)

/-- Whether the character lies in one of the ranges. -/
def CodeRanges.contains (ranges : CodeRanges) (c : Char) : Bool :=
  List.any ranges fun range => range.1 ≤ c.toNat && c.toNat ≤ range.2

end Picklist.Unicode
