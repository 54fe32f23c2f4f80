import Picklist.Number.Decimal
import Picklist.Text.Reader

/-!
# Dates and times in TOML

A date, a time of day, or a date with a time and perhaps an offset. They are written back in one
way: a `T` between date and time, and no zeros at the end of a fraction of a second.
-/

set_option autoImplicit false

namespace Picklist.Toml

/-- Takes a number of exactly `count` digits between two bounds. -/
def numberBetween (count least greatest : Nat) (cs : List Char) : Option (Nat × List Char) :=
  let digits := cs.take count
  let value := digitsValue 10 digits
  if digits.length = count ∧ digits.all Char.isDigit ∧ least ≤ value ∧ value ≤ greatest then
    some (value, cs.drop count)
  else none

/-- The number of days of a month. -/
def daysOfMonth (year month : Nat) : Nat :=
  match month with
  | 2 => if year % 4 = 0 ∧ (year % 100 ≠ 0 ∨ year % 400 = 0) then 29 else 28
  | 4 | 6 | 9 | 11 => 30
  | _ => 31

/-- Takes a date. -/
def date (cs : List Char) : Option (List Char × List Char) := do
  let (year, rest) ← numberBetween 4 0 9999 cs
  let rest ← Reader.word ['-'] rest
  let (month, rest) ← numberBetween 2 1 12 rest
  let rest ← Reader.word ['-'] rest
  let (_, rest) ← numberBetween 2 1 (daysOfMonth year month) rest
  some (cs.take 10, rest)

/-- Takes a fraction of a second; nine places of it count, and zeros at the end do not. -/
def fraction (cs : List Char) : Option (List Char × List Char) :=
  match cs with
  | '.' :: rest =>
    let (digits, rest) := Reader.run Char.isDigit rest
    if digits.isEmpty then none
    else
      let kept := ((digits.take 9).reverse.dropWhile (· == '0')).reverse
      some (if kept.isEmpty then [] else '.' :: kept, rest)
  | _ => some ([], cs)

/-- Takes a time of day. -/
def timeOfDay (cs : List Char) : Option (List Char × List Char) := do
  let (_, rest) ← numberBetween 2 0 23 cs
  let rest ← Reader.word [':'] rest
  let (_, rest) ← numberBetween 2 0 59 rest
  match rest with
  | ':' :: seconds =>
    let (_, rest) ← numberBetween 2 0 60 seconds
    let (part, rest) ← fraction rest
    some (cs.take 8 ++ part, rest)
  | _ => some (cs.take 5, rest)

/-- Takes an offset from universal time. -/
def offset (cs : List Char) : Option (List Char × List Char) :=
  match cs with
  | 'Z' :: rest => some (['Z'], rest)
  | 'z' :: rest => some (['Z'], rest)
  | c :: rest =>
    if c = '+' ∨ c = '-' then do
      let (_, rest) ← numberBetween 2 0 23 rest
      let rest ← Reader.word [':'] rest
      let (_, rest) ← numberBetween 2 0 59 rest
      some (cs.take 6, rest)
    else none
  | [] => some ([], [])

/-- Reads a date, a time, or both. -/
def datetime? (cs : List Char) : Option (List Char) :=
  match date cs with
  | some (day, []) => some day
  | some (day, separator :: rest) => do
    if separator ≠ 'T' ∧ separator ≠ 't' ∧ separator ≠ ' ' then none
    else
      let (time, rest) ← timeOfDay rest
      let (zone, rest) ← offset rest
      if rest.isEmpty then some (day ++ 'T' :: time ++ zone) else none
  | none =>
    match timeOfDay cs with
    | some (time, []) => some time
    | _ => none

end Picklist.Toml
