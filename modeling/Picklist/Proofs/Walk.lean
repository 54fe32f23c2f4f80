import Mathlib.Data.Int.ModEq
import Mathlib.Data.List.Rotate
import Picklist.Direction

/-!
# Walks through a cycle

A walk takes step after step through a cyclic list, each in one of two directions. However often it
passes the ends, the place where it arrives is told by the number of steps in either direction: it
is the start, as many places on as there were more steps forward than backward, counted modulo the
length of the cycle. A walk once round in one direction comes by every place.

The steps are also told with the arithmetic of 64-bit words. No sum in them exceeds a word as long
as the list is one that can be stored.
-/

set_option autoImplicit false

namespace Picklist

/-! ## Places of a cycle -/

/-- The place that lies `distance` places behind `index` in a cycle of `length` places. -/
def placeAfter (length index : Nat) (distance : Int) : Nat :=
  ((index + distance) % length).toNat

section

variable {length : Nat} (places : 0 < length)

include places

/-- A place after some steps is the sum, modulo the number of places. -/
theorem cast_placeAfter (index : Nat) (distance : Int) :
    (placeAfter length index distance : Int) = (index + distance) % length :=
  Int.toNat_of_nonneg (Int.emod_nonneg _ (by omega))

/-- A walk stays inside the list. -/
theorem placeAfter_lt (index : Nat) (distance : Int) :
    placeAfter length index distance < length := by
  have below : ((index + distance) % length : Int) < length := Int.emod_lt_of_pos _ (by omega)
  rw [← cast_placeAfter places] at below
  exact Int.ofNat_lt.mp below

/-- Two walks, one after the other, are one walk. -/
theorem placeAfter_placeAfter (index : Nat) (first second : Int) :
    placeAfter length (placeAfter length index first) second =
      placeAfter length index (first + second) := by
  rw [placeAfter, cast_placeAfter places, Int.emod_add_emod, Int.add_assoc]
  rfl

end

/-- No steps lead nowhere. -/
theorem placeAfter_zero {length index : Nat} (inside : index < length) :
    placeAfter length index 0 = index := by
  have remains : ((index : Int) + 0) % length = index := by
    rw [Int.add_zero]
    exact Int.emod_eq_of_lt (by omega) (by omega)
  rw [placeAfter, remains, Int.toNat_natCast]

/-- Once round the cycle everything is as before. -/
theorem placeAfter_length {length index : Nat} (inside : index < length) (rounds : Int) :
    placeAfter length index (length * rounds) = index := by
  rw [placeAfter, Int.add_mul_emod_self_left, ← Int.add_zero (index : Int)]
  exact placeAfter_zero inside

/-- The places once round the cycle are those of the cycle, each once. -/
theorem map_placeAfter_range (length index : Nat) :
    (List.range length).map (fun steps : Nat => placeAfter length index (steps + 1)) =
      (List.range length).rotate (index + 1) := by
  apply List.ext_getElem
  · simp
  intro steps below _
  have entry : placeAfter length index (steps + 1) = (steps + (index + 1)) % length := by
    have sum : (index : Int) + (steps + 1) = ((steps + (index + 1) : Nat) : Int) := by omega
    rw [placeAfter, sum, ← Int.natCast_emod, Int.toNat_natCast]
  simp [List.getElem_rotate, entry]

namespace Direction

/-! ## Steps and walks -/

/-- How far a step leads. -/
def stride : Direction → Int
  | forward => 1
  | backward => -1

/-- The step back. -/
def opposite : Direction → Direction
  | forward => backward
  | backward => forward

/-- A step leads to the next place in its direction. -/
theorem stepWrapping_eq (direction : Direction) (index : Nat) {length : Nat}
    (places : 0 < length) :
    direction.stepWrapping index length = some (placeAfter length index direction.stride) := by
  unfold stepWrapping
  rw [if_neg (by omega)]
  have remainder : index % length < length := Nat.mod_lt index places
  cases direction with
  | forward =>
    have next : (((index % length + 1) % length : Nat) : Int) =
        (index + stride forward) % length := by
      rw [Int.natCast_emod, Int.natCast_add, Int.natCast_emod, Int.emod_add_emod]
      rfl
    rw [placeAfter, ← next, Int.toNat_natCast]
  | backward =>
    have next : (((index % length + length - 1) % length : Nat) : Int) =
        (index + stride backward) % length := by
      have whole : ((index % length + length - 1 : Nat) : Int) =
          (index : Int) % length + stride backward + length := by
        rw [← Int.natCast_emod, stride]
        omega
      rw [Int.natCast_emod, whole, Int.add_emod_right, Int.emod_add_emod]
    rw [placeAfter, ← next, Int.toNat_natCast]

/-- How far a number of steps lead: those forward less those backward. -/
def distance (steps : List Direction) : Int :=
  steps.count forward - steps.count backward

/-- The distance of a walk is its first step and the distance of the others. -/
theorem distance_cons (direction : Direction) (steps : List Direction) :
    distance (direction :: steps) = direction.stride + distance steps := by
  unfold distance
  cases direction with
  | forward =>
    rw [List.count_cons_self, List.count_cons_of_ne (by decide), stride]
    omega
  | backward =>
    rw [List.count_cons_self, List.count_cons_of_ne (by decide), stride]
    omega

/-- Steps in one direction cover their number times the stride. -/
theorem distance_replicate (direction : Direction) (count : Nat) :
    distance (List.replicate count direction) = count * direction.stride := by
  induction count with
  | zero => simp [distance]
  | succ count ih =>
    rw [List.replicate_succ, distance_cons, ih, Int.natCast_succ, Int.add_mul, Int.one_mul,
      Int.add_comm]

/-- A step and a step back cover no distance. -/
theorem distance_back (direction : Direction) : distance [direction, direction.opposite] = 0 := by
  cases direction <;> decide

/-! ## Steps in machine words -/

/-- The sum of two words, if it is a word. -/
def wordSum? (a b : Nat) : Option Nat :=
  if a + b < 2 ^ 64 then some (a + b) else none

/-- The difference of two words, if it is not below zero. -/
def wordDifference? (a b : Nat) : Option Nat :=
  if b ≤ a then some (a - b) else none

/-- One step from `index` inside a cycle of `length` places. There is no result if a word does not
suffice. -/
def stepWords? (direction : Direction) (index length : Nat) : Option (Option Nat) :=
  if length = 0 then some none
  else do
    let next ← match direction with
      | forward => wordSum? (index % length) 1
      | backward => do wordDifference? (← wordSum? (index % length) length) 1
    return some (next % length)

/-- For lists that can be stored words suffice, whatever the index is. -/
theorem stepWords?_eq (direction : Direction) (index : Nat) {length : Nat}
    (stored : length < 2 ^ 63) :
    direction.stepWords? index length = some (direction.stepWrapping index length) := by
  unfold stepWords? stepWrapping
  by_cases empty : length = 0
  · rw [if_pos empty, if_pos empty]
  · have remainder : index % length < length := Nat.mod_lt index (by omega)
    rw [if_neg empty, if_neg empty]
    cases direction with
    | forward =>
      have sum : wordSum? (index % length) 1 = some (index % length + 1) := if_pos (by omega)
      simp [sum]
    | backward =>
      have sum : wordSum? (index % length) length = some (index % length + length) :=
        if_pos (by omega)
      have difference : wordDifference? (index % length + length) 1 =
          some (index % length + length - 1) := if_pos (by omega)
      simp [sum, difference]

end Direction

end Picklist
