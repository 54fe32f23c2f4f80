import Picklist.Text.Reader

/-!
# Strings in JSON

Quotes, backslashes and control characters are escaped in strings; any character may be given by its
16-bit codes, two of them for a character beyond the first 65536.
-/

set_option autoImplicit false

namespace Picklist.Json

/-- A digit of a hexadecimal code. -/
def hexDigit (n : Nat) : Char := Nat.digitChar n

/-- A character within a string. -/
def escapeChar (c : Char) : List Char :=
  match c with
  | '\x22' => ['\\', '\x22']
  | '\\' => ['\\', '\\']
  | '\x08' => ['\\', 'b']
  | '\x0c' => ['\\', 'f']
  | '\n' => ['\\', 'n']
  | '\r' => ['\\', 'r']
  | '\t' => ['\\', 't']
  | _ =>
    if c.toNat < 0x20 then ['\\', 'u', '0', '0', hexDigit (c.toNat / 16), hexDigit (c.toNat % 16)]
    else [c]

/-- A text as a string. -/
def quote (text : List Char) : List Char :=
  '\x22' :: (text.flatMap escapeChar ++ ['\x22'])

/-- A piece of a string. -/
inductive Piece where
  | char (c : Char)
  | code (n : Nat)
  deriving Repr, DecidableEq, Inhabited

/-- The value of a hexadecimal digit. -/
def hexValue? (c : Char) : Option Nat :=
  if '0' ≤ c ∧ c ≤ '9' then some (c.toNat - '0'.toNat)
  else if 'a' ≤ c ∧ c ≤ 'f' then some (c.toNat - 'a'.toNat + 10)
  else if 'A' ≤ c ∧ c ≤ 'F' then some (c.toNat - 'A'.toNat + 10)
  else none

/-- The code that four hexadecimal digits spell. -/
def code? (a b c d : Char) : Option Nat := do
  some ((((← hexValue? a) * 16 + (← hexValue? b)) * 16 + (← hexValue? c)) * 16 + (← hexValue? d))

/-- The character that a letter behind a backslash stands for. -/
def escaped? : Char → Option Char
  | '\x22' => some '\x22'
  | '\\' => some '\\'
  | '/' => some '/'
  | 'b' => some '\x08'
  | 'f' => some '\x0c'
  | 'n' => some '\n'
  | 'r' => some '\r'
  | 't' => some '\t'
  | _ => none

/-- Takes the pieces of a string behind its opening quote. -/
def pieces : List Char → Option (List Piece × List Char)
  | [] => none
  | '\x22' :: rest => some ([], rest)
  | '\\' :: 'u' :: a :: b :: c :: d :: rest => do
    let code ← code? a b c d
    let (later, rest) ← pieces rest
    some (.code code :: later, rest)
  | '\\' :: c :: rest => do
    let c ← escaped? c
    let (later, rest) ← pieces rest
    some (.char c :: later, rest)
  | c :: rest => do
    if c.toNat < 0x20 then none
    else
      let (later, rest) ← pieces rest
      some (.char c :: later, rest)

/-- Whether a code is the first half of a pair. -/
def isHighHalf (n : Nat) : Bool := 0xD800 ≤ n && n ≤ 0xDBFF

/-- Whether a code is the second half of a pair. -/
def isLowHalf (n : Nat) : Bool := 0xDC00 ≤ n && n ≤ 0xDFFF

/-- The character that a pair of halves stands for. -/
def pairChar (high low : Nat) : Char :=
  Char.ofNat (0x10000 + (high - 0xD800) * 0x400 + (low - 0xDC00))

/-- The text that pieces spell, unless a half of a pair is by itself. -/
def joinPieces : List Piece → Option (List Char)
  | [] => some []
  | .char c :: rest => (joinPieces rest).map (c :: ·)
  | .code high :: .code low :: rest =>
    if isHighHalf high && isLowHalf low then (joinPieces rest).map (pairChar high low :: ·)
    else if isHighHalf high || isLowHalf high then none
    else (joinPieces (.code low :: rest)).map (Char.ofNat high :: ·)
  | .code n :: rest =>
    if isHighHalf n || isLowHalf n then none else (joinPieces rest).map (Char.ofNat n :: ·)

end Picklist.Json
