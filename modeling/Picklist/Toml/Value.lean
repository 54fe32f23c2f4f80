import Picklist.Number.Binary

/-!
# TOML values

What a TOML document holds. Integers have any size here; who uses them sets the limits. Dates and
times are kept as text.
-/

set_option autoImplicit false

namespace Picklist.Toml

/-- A value in a document. -/
inductive Value where
  | string (text : String)
  | integer (value : Int)
  | float (value : Binary)
  | boolean (value : Bool)
  /-- A date, a time, or both. -/
  | datetime (text : String)
  | array (items : List Value)
  | table (entries : List (String × Value))
  deriving Repr, Inhabited

/-- The entries of a table. -/
abbrev Table := List (String × Value)

mutual

/-- Whether all integers in a value, however deep, lie between the bounds. -/
def Value.integersWithin (least greatest : Int) : Value → Bool
  | .integer n => least ≤ n && n ≤ greatest
  | .array items => itemsWithin least greatest items
  | .table entries => entriesWithin least greatest entries
  | _ => true

/-- Whether all integers in the items of an array lie between the bounds. -/
def itemsWithin (least greatest : Int) : List Value → Bool
  | [] => true
  | v :: rest => v.integersWithin least greatest && itemsWithin least greatest rest

/-- Whether all integers in the entries of a table lie between the bounds. -/
def entriesWithin (least greatest : Int) : Table → Bool
  | [] => true
  | (_, v) :: rest => v.integersWithin least greatest && entriesWithin least greatest rest

end

end Picklist.Toml
