import Picklist.Number.Decimal

/-!
# Floating point numbers as exact numbers

A finite floating point number is a whole number times a power of two. Rounding it, and finding the
shortest decimal number that is next to it, is arithmetic on whole numbers.
-/

set_option autoImplicit false

namespace Picklist

/-- A floating point number of 64 bits. -/
inductive Binary where
  | notANumber
  | infinite (negative : Bool)
  /-- The number `significand · 2 ^ exponent`, with a sign. -/
  | finite (negative : Bool) (significand : Nat) (exponent : Int)
  deriving Repr, DecidableEq, Inhabited

namespace Binary

/-- The smallest exponent. -/
def leastExponent : Int := -1074

/-- The largest exponent. -/
def greatestExponent : Int := 971

/-- Divides, rounding to the nearest whole number and halves to the even one. -/
def divideToEven (numerator denominator : Nat) : Nat :=
  let quotient := numerator / denominator
  let twice := 2 * (numerator % denominator)
  if denominator < twice ∨ (twice = denominator ∧ quotient % 2 = 1) then quotient + 1 else quotient

/-- The floating point number next to a fraction. -/
def ofFraction (negative : Bool) (numerator denominator : Nat) : Binary :=
  let places (exponent : Int) : Nat :=
    if 0 ≤ exponent then divideToEven numerator (denominator * Nat.pow 2 exponent.natAbs)
    else divideToEven (numerator * Nat.pow 2 exponent.natAbs) denominator
  let guess : Int := (numerator.log2 : Int) - denominator.log2 - 53
  let exponent := max leastExponent guess
  let exponent := if places exponent < Nat.pow 2 53 then exponent else exponent + 1
  let significand := places exponent
  let (significand, exponent) :=
    if significand = Nat.pow 2 53 then (Nat.pow 2 52, exponent + 1) else (significand, exponent)
  if greatestExponent < exponent then .infinite negative
  else .finite negative significand exponent

/-- A power of ten beyond which any number with the given digits is rounded to zero or is
infinite. -/
def exponentLimit (digits : Nat) : Int := 400 + digits.log2

/-- The floating point number next to a decimal number. -/
def ofDecimal (d : Decimal) : Binary :=
  let limit := exponentLimit d.digits
  let exponent := max (-limit) (min limit d.exponent)
  if d.digits = 0 then .finite d.negative 0 leastExponent
  else if exponent < 0 then ofFraction d.negative d.digits (Nat.pow 10 exponent.natAbs)
  else ofFraction d.negative (d.digits * Nat.pow 10 exponent.natAbs) 1

/-- Whether the number is finite. -/
def isFinite : Binary → Bool
  | .finite _ _ _ => true
  | _ => false

/-- Whether the number is zero. -/
def isZero : Binary → Bool
  | .finite _ significand _ => significand == 0
  | _ => false

/-- The whole number next to it, halves away from zero, forced into the range from zero to
`largest`. -/
def clampToNat (largest : Nat) : Binary → Nat
  | .notANumber => 0
  | .infinite negative => if negative then 0 else largest
  | .finite negative significand exponent =>
    if negative then 0
    else
      let rounded :=
        if 0 ≤ exponent then significand * Nat.pow 2 exponent.natAbs
        else (2 * significand + Nat.pow 2 exponent.natAbs) / (2 * Nat.pow 2 exponent.natAbs)
      min largest rounded

/-- The numbers that are closer to `significand · 2 ^ exponent` than to its neighbours lie between
these bounds, counted in quarters of the last binary place. -/
def quarterBounds (significand : Nat) (exponent : Int) : Nat × Nat :=
  let low := if significand = Nat.pow 2 52 ∧ leastExponent < exponent then 1 else 2
  (4 * significand - low, 4 * significand + 2)

/-- The decimal number `digits · 10 ^ place` next to `significand · 2 ^ exponent`, if reading it
gives that number back. -/
def decimalAt? (significand : Nat) (exponent place : Int) : Option Nat :=
  let quarter := exponent - 2
  let up := if 0 ≤ quarter then Nat.pow 2 quarter.natAbs else 1
  let down := if 0 ≤ quarter then 1 else Nat.pow 2 quarter.natAbs
  let up := if place < 0 then up * Nat.pow 10 place.natAbs else up
  let down := if place < 0 then down else down * Nat.pow 10 place.natAbs
  let value := 4 * significand * up
  let (low, high) := quarterBounds significand exponent
  let closed := significand % 2 = 0
  let isInside (digits : Nat) : Bool :=
    let scaled := digits * down
    if closed then low * up ≤ scaled && scaled ≤ high * up
    else low * up < scaled && scaled < high * up
  let below := value / down
  let above := below + 1
  match isInside below, isInside above with
  | true, true =>
    if value - below * down ≤ above * down - value then some below else some above
  | true, false => some below
  | false, true => some above
  | false, false => none

/-- Tries decimal places from the given one downwards. -/
def shortestFrom (significand : Nat) (exponent : Int) : Nat → Int → Decimal
  | 0, place => { digits := 0, exponent := place }
  | tries + 1, place =>
    match decimalAt? significand exponent place with
    | some digits => { digits, exponent := place }
    | none => shortestFrom significand exponent tries (place - 1)

/-- The decimal number with the fewest digits that reads back as `significand · 2 ^ exponent`. -/
def shortest (significand : Nat) (exponent : Int) : Decimal :=
  let top := (significand.log2 + exponent) * 30103 / 100000 + 1
  shortestFrom significand exponent 20 top

/-- The text of a floating point number: the fewest digits that read back, in positional
notation. -/
def text : Binary → String
  | .notANumber => "NaN"
  | .infinite negative => if negative then "-inf" else "inf"
  | .finite negative significand exponent =>
    let size : Decimal :=
      if significand = 0 then { digits := 0 } else shortest significand exponent
    String.ofList { size with negative }.positional

end Binary

end Picklist
