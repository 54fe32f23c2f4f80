import Picklist.Unicode.Decomposition.Table
import Picklist.Unicode.CombiningClass

/-!
# Canonical decomposition

A text is decomposed by replacing every character by its full canonical decomposition and then
sorting every run of combining characters by combining class, keeping characters of one class in
their order. Hangul syllables decompose by arithmetic on their index.
-/

set_option autoImplicit false

namespace Picklist.Unicode

/-- First precomposed Hangul syllable. -/
def hangulBase : Nat := 0xAC00

/-- Number of precomposed Hangul syllables. -/
def hangulCount : Nat := 11172

/-- The two or three conjoining letters of the Hangul syllable with the given index. -/
def decomposeHangul (index : Nat) : List Char :=
  let leading := Char.ofNat (0x1100 + index / 588)
  let vowel := Char.ofNat (0x1161 + index % 588 / 28)
  if index % 28 = 0 then [leading, vowel]
  else [leading, vowel, Char.ofNat (0x11A7 + index % 28)]

/-- The decomposition that the table lists for a character, if it lists one. -/
def tableDecomposition? (c : Char) : Option (List Nat) :=
  match decompositionGroups.find? fun g => g.first ≤ c.toNat && c.toNat ≤ g.last with
  | some group => group.entries.lookup c.toNat
  | none => none

/-- The full canonical decomposition of one character. -/
def decompose (c : Char) : List Char :=
  if hangulBase ≤ c.toNat ∧ c.toNat < hangulBase + hangulCount then
    decomposeHangul (c.toNat - hangulBase)
  else
    match tableDecomposition? c with
    | some codes => codes.map Char.ofNat
    | none => [c]

/-- Puts a character in front of an ordered text, moving it behind the combining characters of
smaller class that follow. -/
def placeInOrder (c : Char) : List Char → List Char
  | [] => [c]
  | d :: rest =>
    if 0 < combiningClass d ∧ combiningClass d < combiningClass c then d :: placeInOrder c rest
    else c :: d :: rest

/-- Sorts every run of combining characters by class; the sort is stable. -/
def canonicalOrder (cs : List Char) : List Char :=
  cs.foldr placeInOrder []

/-- The canonical decomposition of a text. -/
def canonicalDecomposition (cs : List Char) : List Char :=
  canonicalOrder (cs.flatMap decompose)

end Picklist.Unicode
