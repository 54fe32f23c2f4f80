import Picklist.Unicode.WhiteSpace

/-!
# Words in a line

Words are runs of characters of one kind: ASCII punctuation, or anything else that is not white
space. Places in a line are counted in characters.
-/

set_option autoImplicit false

namespace Picklist.Input

/-- The kinds of characters that make up words. -/
inductive CharKind where
  | space
  | punctuation
  | other
  deriving Repr, DecidableEq, Inhabited

/-- The kind of a character. -/
def CharKind.of (c : Char) : CharKind :=
  if Unicode.isWhiteSpace c then .space
  else if 0x21 ≤ c.toNat ∧ c.toNat < 0x7F ∧ !c.isAlphanum then .punctuation
  else .other

/-- The number of characters up to the first one that starts a run, in a line whose last character
was of the given kind. Only runs for which `counts` holds are looked for. -/
def runStart? (counts : CharKind → CharKind → Bool) (last : CharKind) : List Char → Option Nat
  | [] => none
  | c :: rest =>
    let kind := CharKind.of c
    if last != kind && counts last kind then some 0 else (runStart? counts kind rest).map (· + 1)

/-- The next place behind `column` where a run of the wanted sort starts. -/
def nextRun? (counts : CharKind → CharKind → Bool) (line : List Char) (column : Nat) : Option Nat :=
  match line.drop column with
  | [] => none
  | c :: rest => (runStart? counts (.of c) rest).map (column + 1 + ·)

/-- The start of the next word behind `column`. -/
def wordStartAfter? : List Char → Nat → Option Nat :=
  nextRun? fun _ kind => kind != .space

/-- The end of the current or next word behind `column`, unless that is the end of the line. -/
def wordEndAfter? : List Char → Nat → Option Nat :=
  nextRun? fun last _ => last != .space

/-- The start of the current or previous word before `column`. -/
def wordStartBefore? (line : List Char) (column : Nat) : Option Nat :=
  match (line.take column).reverse with
  | [] => none
  | c :: rest =>
    match runStart? (fun last _ => last != .space) (.of c) rest with
    | some n => some (min column line.length - (n + 1))
    | none => if CharKind.of (rest.getLastD c) != .space then some 0 else none

end Picklist.Input
