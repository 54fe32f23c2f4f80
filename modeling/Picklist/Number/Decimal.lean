/-!
# Decimal numbers

Digit strings in any base, and numbers in decimal notation.
-/

set_option autoImplicit false

namespace Picklist

/-- The value of a digit in bases up to 36, in either case. -/
def digitValue? (base : Nat) (c : Char) : Option Nat :=
  let value :=
    if '0' ≤ c ∧ c ≤ '9' then some (c.toNat - '0'.toNat)
    else if 'a' ≤ c ∧ c ≤ 'z' then some (c.toNat - 'a'.toNat + 10)
    else if 'A' ≤ c ∧ c ≤ 'Z' then some (c.toNat - 'A'.toNat + 10)
    else none
  value.filter (· < base)

/-- Whether a character is a digit in the given base. -/
def isDigitIn (base : Nat) (c : Char) : Bool := (digitValue? base c).isSome

/-- The number that a string of digits spells; characters that are no digits count as zero. -/
def digitsValue (base : Nat) (digits : List Char) : Nat :=
  digits.foldl (fun value c => value * base + (digitValue? base c).getD 0) 0

/-- The number spelled by digits with an optional plus sign, and nothing else, if it is at most
`largest`. -/
def naturalUpTo? (base largest : Nat) (cs : List Char) : Option Nat :=
  let digits := match cs with
    | '+' :: rest => rest
    | _ => cs
  if digits.isEmpty || !digits.all (isDigitIn base) then none
  else
    let value := digitsValue base digits
    if value ≤ largest then some value else none

/-- The largest number of 64 bits. -/
def largestWord : Nat := Nat.pow 2 64 - 1

/-- The least integer of 64 bits. -/
def leastInteger : Int := -(Nat.pow 2 63 : Nat)

/-- The greatest integer of 64 bits. -/
def greatestInteger : Int := (Nat.pow 2 63 - 1 : Nat)

/-- A number in decimal notation: `digits · 10 ^ exponent`, with a sign. -/
structure Decimal where
  /-- Whether there is a minus sign. -/
  negative : Bool := false
  /-- The digits, read as one number. -/
  digits : Nat
  /-- The power of ten that the digits are multiplied with. -/
  exponent : Int := 0
  deriving Repr, DecidableEq, Inhabited

namespace Decimal

/-- The number in positional notation, without exponent. -/
def positional (d : Decimal) : List Char :=
  let digits := Nat.toDigits 10 d.digits
  let text :=
    if 0 ≤ d.exponent then digits ++ List.replicate d.exponent.natAbs '0'
    else
      let places := d.exponent.natAbs
      let padded := List.replicate (places + 1 - digits.length) '0' ++ digits
      padded.take (padded.length - places) ++ '.' :: padded.drop (padded.length - places)
  if d.negative then '-' :: text else text

end Decimal

/-- The number written with the given digits before and behind the point, and an exponent. -/
def decimalOfParts (negative : Bool) (whole fraction : List Char) (exponent : Int) : Decimal where
  negative := negative
  digits := digitsValue 10 (whole ++ fraction)
  exponent := exponent - fraction.length

end Picklist
