import Picklist.Number.Decimal
import Picklist.Unicode.Utf8

/-!
# Escapes in printed text

A backslash gives the character behind it another meaning: a control character, or a byte with the
given octal number. Where nothing behind it has a meaning, it stands for itself.
-/

set_option autoImplicit false

namespace Picklist.Shell

/-- The byte of a backslash. -/
def backslash : UInt8 := 92

/-- The byte that a letter behind a backslash stands for. -/
def escapedByte? : Char → Option UInt8
  | 'a' => some 7
  | 'b' => some 8
  | 't' => some 9
  | 'n' => some 10
  | 'v' => some 11
  | 'f' => some 12
  | 'r' => some 13
  | '\\' => some backslash
  | _ => none

/-- Takes what belongs to a backslash, and answers with the byte that both stand for. At most three
octal digits are taken. -/
def escape (cs : List Char) : UInt8 × List Char :=
  let digits := (cs.take 3).takeWhile (isDigitIn 8)
  if digits.isEmpty then
    match cs with
    | [] => (backslash, [])
    | c :: rest =>
      match escapedByte? c with
      | some b => (b, rest)
      | none => (backslash, cs)
  else (UInt8.ofNat (digitsValue 8 digits), cs.drop digits.length)

/-- An octal number may start with a zero that does not count as one of its digits. -/
def dropLeadingZero : List Char → List Char
  | '0' :: d :: rest => if isDigitIn 8 d then d :: rest else '0' :: d :: rest
  | cs => cs

/-- The bytes that an argument stands for when its escapes are replaced, with as many steps as
given. An escaped `c` ends all output, of which the answer tells. -/
def unescape : Nat → List Char → List UInt8 × Bool
  | 0, _ => ([], false)
  | _ + 1, [] => ([], false)
  | _ + 1, '\\' :: 'c' :: _ => ([], true)
  | fuel + 1, '\\' :: rest =>
    let (b, rest) := escape (dropLeadingZero rest)
    let (later, ended) := unescape fuel rest
    (b :: later, ended)
  | fuel + 1, c :: rest =>
    let (later, ended) := unescape fuel rest
    (String.utf8EncodeChar c ++ later, ended)

/-- The bytes that an argument stands for, and whether it ends all output. -/
def unescaped (cs : List Char) : List UInt8 × Bool := unescape cs.length cs

end Picklist.Shell
