import Picklist.Number.Binary

/-!
# JSON values

What a JSON text holds. The members of an object keep their order, and a key may occur more than
once.
-/

set_option autoImplicit false

namespace Picklist.Json

/-- A number as it is written. -/
structure Number where
  value : Decimal
  /-- Whether it is written without fraction and exponent. -/
  isWhole : Bool
  deriving Repr, DecidableEq, Inhabited

namespace Number

/-- A natural number. -/
def ofNat (n : Nat) : Number := { value := { digits := n }, isWhole := true }

/-- The natural number that is written, if it has no sign and is at most `largest`. -/
def toNat? (largest : Nat) (n : Number) : Option Nat :=
  if n.isWhole && !n.value.negative && decide (n.value.digits ≤ largest) then some n.value.digits
  else none

/-- Whether the number can be kept as a floating point number. -/
def isRepresentable (n : Number) : Bool := (Binary.ofDecimal n.value).isFinite

end Number

/-- A value in a JSON text. -/
inductive Value where
  /-- The value that stands for nothing. -/
  | null
  | boolean (value : Bool)
  | number (n : Number)
  | string (text : String)
  /-- A string that spells no text because it holds half of a surrogate pair, or an object with such
  a key. -/
  | unpaired
  | array (items : List Value)
  | object (members : List (String × Value))
  deriving Repr, Inhabited

/-- The members of an object. -/
abbrev Members := List (String × Value)

mutual

/-- How deep arrays and objects are nested in a value. -/
def Value.depth : Value → Nat
  | .array items => itemsDepth items + 1
  | .object members => membersDepth members + 1
  | _ => 0

/-- How deep arrays and objects are nested in the items of an array. -/
def itemsDepth : List Value → Nat
  | [] => 0
  | v :: rest => max v.depth (itemsDepth rest)

/-- How deep arrays and objects are nested in the members of an object. -/
def membersDepth : Members → Nat
  | [] => 0
  | (_, v) :: rest => max v.depth (membersDepth rest)

end

mutual

/-- Whether all numbers and strings in a value are sound. -/
def Value.isSound : Value → Bool
  | .number n => n.isRepresentable
  | .unpaired => false
  | .array items => itemsSound items
  | .object members => membersSound members
  | _ => true

/-- Whether all numbers and strings in the items of an array are sound. -/
def itemsSound : List Value → Bool
  | [] => true
  | v :: rest => v.isSound && itemsSound rest

/-- Whether all numbers and strings in the members of an object are sound. -/
def membersSound : Members → Bool
  | [] => true
  | (_, v) :: rest => v.isSound && membersSound rest

end

/-- How deep values may be nested that are kept as a whole. -/
def depthLimit : Nat := 127

namespace Value

/-- Whether a value can be kept as a whole. -/
def isKeepable (v : Value) : Bool := decide (v.depth ≤ depthLimit) && v.isSound

/-- The text of a string. -/
def text? : Value → Option String
  | .string s => some s
  | _ => none

/-- The texts of an array of strings. -/
def texts? : Value → Option (List String)
  | .array items => items.mapM text?
  | _ => none

/-- The truth value. -/
def flag? : Value → Option Bool
  | .boolean b => some b
  | _ => none

/-- The natural number, if it is at most `largest`. -/
def nat? (largest : Nat) : Value → Option Nat
  | .number n => n.toNat? largest
  | _ => none

end Value

/-- Whether no member has one of the names twice. -/
def eachOnce (names : List String) (members : Members) : Bool :=
  names.all fun name => decide ((members.filter (·.1 = name)).length ≤ 1)

/-- The fields of a record: the members of an object, none of them twice, or the items of an array
in the order of the fields. -/
def fields? (names : List String) : Value → Option Members
  | .object members => if eachOnce names members then some members else none
  | .array items => if items.length ≤ names.length then some (names.zip items) else none
  | _ => none

/-- Reads a field; a missing one has the given value. -/
def fieldOr {α : Type} (fallback : α) (read : Value → Option α) (members : Members)
    (name : String) :
    Option α :=
  match members.lookup name with
  | some v => read v
  | none => some fallback

end Picklist.Json
