import Picklist.Json.Quoted
import Picklist.Json.Value

/-!
# Reading JSON

A text is one value with blank space around it.
-/

set_option autoImplicit false

namespace Picklist.Json

/-- Whether a character is blank space between the parts of a text. -/
def isSpace (c : Char) : Bool := c == ' ' || c == '\n' || c == '\t' || c == '\r'

/-- Drops blank space. -/
def dropSpace (cs : List Char) : List Char := cs.dropWhile isSpace

/-- Takes the digits before the point; only zero itself starts with a zero. -/
def wholeDigits (cs : List Char) : Option (List Char × List Char) :=
  match cs with
  | '0' :: rest => some (['0'], rest)
  | _ =>
    let (digits, rest) := Reader.run Char.isDigit cs
    if digits.isEmpty then none else some (digits, rest)

/-- Takes a fraction, if there is one. -/
def fractionDigits (cs : List Char) : Option (Option (List Char) × List Char) :=
  match cs with
  | '.' :: rest =>
    let (digits, rest) := Reader.run Char.isDigit rest
    if digits.isEmpty then none else some (some digits, rest)
  | _ => some (none, cs)

/-- Takes the sign and the digits of an exponent. -/
def exponentDigits (cs : List Char) : Option (Int × List Char) :=
  let (negative, unsigned) : Bool × List Char :=
    match cs with
    | '+' :: rest => (false, rest)
    | '-' :: rest => (true, rest)
    | _ => (false, cs)
  let (digits, rest) := Reader.run Char.isDigit unsigned
  if digits.isEmpty then none
  else
    let size : Int := digitsValue 10 digits
    some (if negative then -size else size, rest)

/-- Takes an exponent, if there is one. -/
def exponentPart (cs : List Char) : Option (Option Int × List Char) :=
  match cs with
  | 'e' :: rest => (exponentDigits rest).map fun (n, rest) => (some n, rest)
  | 'E' :: rest => (exponentDigits rest).map fun (n, rest) => (some n, rest)
  | _ => some (none, cs)

/-- Takes a number behind its sign. -/
def unsignedNumber (negative : Bool) (cs : List Char) : Option (Number × List Char) := do
  let (whole, rest) ← wholeDigits cs
  let (fraction, rest) ← fractionDigits rest
  let (exponent, rest) ← exponentPart rest
  let value := decimalOfParts negative whole (fraction.getD []) (exponent.getD 0)
  some ({ value, isWhole := fraction.isNone && exponent.isNone }, rest)

/-- Takes a number. -/
def number (cs : List Char) : Option (Number × List Char) :=
  match cs with
  | '-' :: rest => unsignedNumber true rest
  | _ => unsignedNumber false cs

/-- Takes a string: its text, if it spells one. -/
def string (cs : List Char) : Option (Option String × List Char) :=
  match cs with
  | '\x22' :: rest =>
    (pieces rest).map fun (ps, rest) => ((joinPieces ps).map String.ofList, rest)
  | _ => none

/-- Takes a member of an object, given a reader of values. -/
def member (value : Reader Value) (cs : List Char) :
    Option ((Option String × Value) × List Char) := do
  let (key, rest) ← string cs
  let rest ← Reader.word [':'] (dropSpace rest)
  let (v, rest) ← value (dropSpace rest)
  some ((key, v), rest)

/-- The object with the given members, if all their keys are texts. -/
def objectOf (members : List (Option String × Value)) : Value :=
  match members.mapM fun (key, v) => key.map fun k => (k, v) with
  | some members => .object members
  | none => .unpaired

/-- Takes a value; values are nested at most as deep as the first argument says. -/
def value : Nat → Reader Value
  | 0, _ => none
  | depth + 1, cs =>
    match cs with
    | '[' :: rest =>
      (Reader.items (value depth) (fun cs => some (dropSpace cs)) ']' false rest).map
        fun (vs, rest) => (.array vs, rest)
    | '\x7b' :: rest =>
      (Reader.items (member (value depth)) (fun cs => some (dropSpace cs)) '\x7d' false rest).map
        fun (ms, rest) => (objectOf ms, rest)
    | '\x22' :: _ => (string cs).map fun (text, rest) => (text.elim .unpaired .string, rest)
    | 'n' :: rest => (Reader.word ['u', 'l', 'l'] rest).map fun rest => (.null, rest)
    | 't' :: rest => (Reader.word ['r', 'u', 'e'] rest).map fun rest => (.boolean true, rest)
    | 'f' :: rest => (Reader.word ['a', 'l', 's', 'e'] rest).map fun rest => (.boolean false, rest)
    | _ => (number cs).map fun (n, rest) => (.number n, rest)

/-- Reads a text that is one value. -/
def parse? (text : List Char) : Option Value :=
  match value (text.length + 1) (dropSpace text) with
  | some (v, rest) => if (dropSpace rest).isEmpty then some v else none
  | none => none

end Picklist.Json
