import Picklist.Number.Binary
import Picklist.Theme.Basic

/-!
# Values of settings

Settings come from files and from the environment, as values of several kinds. A setting that is a
truth value, a number or a text accepts other kinds of values where they have a meaning of that
sort.
-/

set_option autoImplicit false

namespace Picklist.Settings

/-- The value of a setting, or of a group of settings. -/
inductive Value where
  /-- The value that stands for nothing. -/
  | nothing
  | boolean (value : Bool)
  | integer (value : Int)
  | float (value : Binary)
  | string (text : String)
  | array (items : List Value)
  | table (entries : List (String × Value))
  deriving Repr, Inhabited

/-- Values under keys. -/
abbrev Entries := List (String × Value)

/-- The truth value that a word stands for; the case of letters does not count. -/
def truthWord? (text : String) : Option Bool :=
  match asciiLower text with
  | "true" => some true
  | "on" => some true
  | "yes" => some true
  | "false" => some false
  | "off" => some false
  | "no" => some false
  | _ => none

/-- A truth value as a number. -/
def bit (b : Bool) : Nat := if b then 1 else 0

namespace Value

/-- Reads a truth value: numbers other than zero are true. -/
def toFlag? : Value → Option Bool
  | .boolean b => some b
  | .integer n => some (n != 0)
  | .float x => some !x.isZero
  | .string "1" => some true
  | .string "0" => some false
  | .string s => truthWord? s
  | _ => none

/-- Reads a natural number of 64 bits: floating point numbers are rounded. -/
def toNat? : Value → Option Nat
  | .boolean b => some (bit b)
  | .integer n => if 0 ≤ n ∧ n ≤ largestWord then some n.toNat else none
  | .float x => some (x.clampToNat largestWord)
  | .string s =>
    match truthWord? s with
    | some b => some (bit b)
    | none => naturalUpTo? 10 largestWord s.toList
  | _ => none

/-- Reads a text: truth values and numbers are written down. -/
def toText? : Value → Option String
  | .boolean b => some (if b then "true" else "false")
  | .integer n => some (toString n)
  | .float x => some x.text
  | .string s => some s
  | _ => none

end Value

end Picklist.Settings
