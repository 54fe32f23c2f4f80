import Picklist.Json.Quoted
import Picklist.Json.Value

/-!
# Writing JSON

Values are written without any blank space, or with every item and member on a line of its own,
indented by two spaces a level.
-/

set_option autoImplicit false

namespace Picklist.Json

/-- A number in digits. -/
def writeNumber (n : Number) : List Char :=
  let digits := Nat.toDigits 10 n.value.digits
  let signed := if n.value.negative then '-' :: digits else digits
  if n.isWhole then signed
  else
    let exponent := Nat.toDigits 10 n.value.exponent.natAbs
    signed ++ 'e' :: (if n.value.exponent < 0 then '-' :: exponent else exponent)

mutual

/-- A value without blank space. -/
def Value.compact : Value → List Char
  | .null => ['n', 'u', 'l', 'l']
  | .boolean true => ['t', 'r', 'u', 'e']
  | .boolean false => ['f', 'a', 'l', 's', 'e']
  | .number n => writeNumber n
  | .string s => quote s.toList
  | .unpaired => ['n', 'u', 'l', 'l']
  | .array [] => ['[', ']']
  | .array (first :: rest) => '[' :: (first.compact ++ compactItems rest)
  | .object [] => ['\x7b', '\x7d']
  | .object ((key, v) :: rest) =>
    '\x7b' :: (quote key.toList ++ ':' :: v.compact ++ compactMembers rest)

/-- The items behind the first one, and the end of the array. -/
def compactItems : List Value → List Char
  | [] => [']']
  | v :: rest => ',' :: (v.compact ++ compactItems rest)

/-- The members behind the first one, and the end of the object. -/
def compactMembers : Members → List Char
  | [] => ['\x7d']
  | (key, v) :: rest => ',' :: (quote key.toList ++ ':' :: v.compact ++ compactMembers rest)

end

/-- A line break with the indentation of a level. -/
def newLine (level : Nat) : List Char := '\n' :: List.replicate (2 * level) ' '

mutual

/-- A value over several lines, at the given level. -/
def Value.pretty (level : Nat) : Value → List Char
  | .array (first :: rest) =>
    '[' :: (newLine (level + 1) ++ first.pretty (level + 1) ++ prettyItems level rest)
  | .object ((key, v) :: rest) =>
    '\x7b' :: (newLine (level + 1) ++ quote key.toList ++ ':' :: ' ' :: v.pretty (level + 1)
      ++ prettyMembers level rest)
  | v => v.compact

/-- The items behind the first one, and the end of the array. -/
def prettyItems (level : Nat) : List Value → List Char
  | [] => newLine level ++ [']']
  | v :: rest => ',' :: (newLine (level + 1) ++ v.pretty (level + 1) ++ prettyItems level rest)

/-- The members behind the first one, and the end of the object. -/
def prettyMembers (level : Nat) : Members → List Char
  | [] => newLine level ++ ['\x7d']
  | (key, v) :: rest =>
    ',' :: (newLine (level + 1) ++ quote key.toList ++ ':' :: ' ' :: v.pretty (level + 1)
      ++ prettyMembers level rest)

end

/-- A list of texts. -/
def ofTexts (texts : List String) : Value := .array (texts.map .string)

/-- A natural number. -/
def ofNat (n : Nat) : Value := .number (.ofNat n)

end Picklist.Json
