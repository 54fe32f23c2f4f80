import Picklist.Toml.Datetime
import Picklist.Toml.Value

/-!
# Unquoted values in TOML

Truth values, numbers and dates. Single underscores may stand between digits.
-/

set_option autoImplicit false

namespace Picklist.Toml

/-- The digits of a number without the underscores between them. -/
def plainDigits? (base : Nat) (cs : List Char) : Option (List Char) :=
  let groups := cs.splitOn '_'
  if groups.all fun digits => !digits.isEmpty && digits.all (isDigitIn base) then
    some groups.flatten
  else none

/-- The sign of a number, and what is behind it. -/
def sign (cs : List Char) : Bool × List Char :=
  match cs with
  | '+' :: rest => (false, rest)
  | '-' :: rest => (true, rest)
  | _ => (false, cs)

/-- A whole number with its sign. -/
def signed (negative : Bool) (value : Nat) : Int :=
  if negative then -(value : Int) else value

/-- Reads the digits of a number in base ten; only zero itself starts with a zero. -/
def decimalDigits? (cs : List Char) : Option (List Char) :=
  match plainDigits? 10 cs with
  | some digits => if digits.head? = some '0' ∧ 1 < digits.length then none else some digits
  | none => none

/-- Reads a whole number. Numbers in other bases have no sign. -/
def integer? (cs : List Char) : Option Int :=
  let based (base : Nat) (digits : List Char) : Option Int :=
    (plainDigits? base digits).map fun digits => (digitsValue base digits : Int)
  match cs with
  | '0' :: 'x' :: digits => based 16 digits
  | '0' :: 'o' :: digits => based 8 digits
  | '0' :: 'b' :: digits => based 2 digits
  | _ =>
    let (negative, digits) := sign cs
    (decimalDigits? digits).map fun digits => signed negative (digitsValue 10 digits)

/-- Reads the exponent of a number behind its letter. -/
def exponent? (cs : List Char) : Option Int :=
  let (negative, digits) := sign cs
  (plainDigits? 10 digits).map fun digits => signed negative (digitsValue 10 digits)

/-- Reads a floating point number; one that would be rounded to infinity is not accepted. -/
def float? (cs : List Char) : Option Binary :=
  let (negative, size) := sign cs
  match size with
  | ['i', 'n', 'f'] => some (.infinite negative)
  | ['n', 'a', 'n'] => some .notANumber
  | _ => do
    let (mantissa, letter) := Reader.run (fun c => c != 'e' && c != 'E') size
    let (whole, point) := Reader.run (· != '.') mantissa
    let wholeDigits ← decimalDigits? whole
    let fractionDigits ← match point with
      | '.' :: digits => plainDigits? 10 digits
      | _ => some []
    let exponent ← match letter with
      | _ :: digits => exponent? digits
      | [] => some 0
    let value := Binary.ofDecimal (decimalOfParts negative wholeDigits fractionDigits exponent)
    if value.isFinite then some value else none

/-- Reads an unquoted value. -/
def scalar (cs : List Char) : Option Value :=
  match String.ofList cs with
  | "true" => some (.boolean true)
  | "false" => some (.boolean false)
  | _ =>
    match integer? cs with
    | some n => some (.integer n)
    | none =>
      match float? cs with
      | some x => some (.float x)
      | none => (datetime? cs).map fun text => .datetime (String.ofList text)

/-- Whether a character may be part of an unquoted value. -/
def isScalarChar (c : Char) : Bool :=
  c.isAlphanum || c == '_' || c == '+' || c == '-' || c == '.' || c == ':'

/-- Takes an unquoted value. A date and a time may have a space between them. -/
def unquoted (cs : List Char) : Option (Value × List Char) :=
  let (first, rest) := Reader.run isScalarChar cs
  match date first, rest with
  | some (_, []), ' ' :: c :: later =>
    if c.isDigit then
      let (time, rest) := Reader.run isScalarChar (c :: later)
      (scalar (first ++ ' ' :: time)).map fun v => (v, rest)
    else (scalar first).map fun v => (v, rest)
  | _, _ => (scalar first).map fun v => (v, rest)

end Picklist.Toml
