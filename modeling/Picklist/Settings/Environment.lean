import Picklist.Settings.Value
import Picklist.Text.Reader

/-!
# Settings from the environment

A variable whose name starts with `LISTKIT__` is a setting; the rest of the name are its keys, with
two underscores between them. Its value is a truth value or a number if it reads as one, and else a
text.
-/

set_option autoImplicit false

namespace Picklist.Settings

/-- What the names of variables with settings start with, in lower case. -/
def variableStart : List Char := "listkit__".toList

/-- Writes a dot for every pair of underscores, from left to right. -/
def dotPairs : List Char → List Char
  | '_' :: '_' :: rest => '.' :: dotPairs rest
  | c :: rest => c :: dotPairs rest
  | [] => []

/-- The key of the setting that a variable stands for. -/
def variableKey? (name : String) : Option String :=
  (Reader.word variableStart (asciiLower name).toList).map fun rest => String.ofList (dotPairs rest)

/-- Reads a whole number of 64 bits. -/
def wholeNumber? (cs : List Char) : Option Int :=
  let (negative, digits) : Bool × List Char :=
    match cs with
    | '+' :: rest => (false, rest)
    | '-' :: rest => (true, rest)
    | _ => (false, cs)
  if digits.isEmpty || !digits.all Char.isDigit then none
  else
    let size : Int := digitsValue 10 digits
    let value := if negative then -size else size
    if leastInteger ≤ value ∧ value ≤ greatestInteger then some value else none

/-- Reads the exponent of a number behind its letter. -/
def exponent? (cs : List Char) : Option Int :=
  let (negative, digits) : Bool × List Char :=
    match cs with
    | '+' :: rest => (false, rest)
    | '-' :: rest => (true, rest)
    | _ => (false, cs)
  if digits.isEmpty || !digits.all Char.isDigit then none
  else
    let size : Int := digitsValue 10 digits
    some (if negative then -size else size)

/-- Reads a floating point number without sign: digits with a point somewhere, an exponent behind
them, or a word. -/
def unsignedFloat? (negative : Bool) (cs : List Char) : Option Binary :=
  match asciiLower (String.ofList cs) with
  | "inf" => some (.infinite negative)
  | "infinity" => some (.infinite negative)
  | "nan" => some .notANumber
  | _ => do
    let (whole, rest) := Reader.run Char.isDigit cs
    let (fraction, rest) := match rest with
      | '.' :: rest => Reader.run Char.isDigit rest
      | _ => ([], rest)
    if whole.isEmpty && fraction.isEmpty then none
    else
      let exponent ← match rest with
        | [] => some 0
        | letter :: rest => if letter = 'e' ∨ letter = 'E' then exponent? rest else none
      some (Binary.ofDecimal (decimalOfParts negative whole fraction exponent))

/-- Reads a floating point number. -/
def floatNumber? (cs : List Char) : Option Binary :=
  match cs with
  | '+' :: rest => unsignedFloat? false rest
  | '-' :: rest => unsignedFloat? true rest
  | _ => unsignedFloat? false cs

/-- The value that a variable gives to a setting. -/
def guessValue (text : String) : Value :=
  match asciiLower text with
  | "true" => .boolean true
  | "false" => .boolean false
  | _ =>
    match wholeNumber? text.toList with
    | some n => .integer n
    | none =>
      match floatNumber? text.toList with
      | some x => .float x
      | none => .string text

/-- The settings of an environment, in alphabetical order of their keys. -/
def ofVariables (environment : List (String × String)) : Entries :=
  let settings := environment.filterMap fun (name, text) =>
    (variableKey? name).map fun key => (key, guessValue text)
  settings.mergeSort fun a b => decide (a.1 ≤ b.1)

end Picklist.Settings
