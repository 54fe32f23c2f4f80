/-!
# Bytes as text

Reads and writes text as UTF-8. Bytes that are no text are cut into pieces, each as long as it could
still have been the start of a character; a reader that has to answer with text puts a replacement
character in the place of every piece.
-/

set_option autoImplicit false

namespace Picklist.Unicode

/-- The bytes that spell a text. -/
def encode (cs : List Char) : List UInt8 := cs.flatMap String.utf8EncodeChar

/-- The character that stands for bytes that are no text. -/
def replacementCharacter : Char := '\ufffd'

/-- The bounds of the second byte of a character, and the number of bytes behind the first one, for
a first byte that starts a longer character. -/
def leadByte? (b : Nat) : Option ((Nat × Nat) × Nat) :=
  if b < 0xC2 then none
  else if b < 0xE0 then some ((0x80, 0xBF), 1)
  else if b = 0xE0 then some ((0xA0, 0xBF), 2)
  else if b = 0xED then some ((0x80, 0x9F), 2)
  else if b < 0xF0 then some ((0x80, 0xBF), 2)
  else if b = 0xF0 then some ((0x90, 0xBF), 3)
  else if b < 0xF4 then some ((0x80, 0xBF), 3)
  else if b = 0xF4 then some ((0x80, 0x8F), 3)
  else none

/-- Takes the bytes behind the first one: the code so far and the bounds of the next byte are given.
Answers with the character, if the bytes are one, and with the number of bytes taken. -/
def laterBytes : Nat → Nat → Nat × Nat → List UInt8 → Option Char × Nat
  | 0, code, _, _ => (some (Char.ofNat code), 0)
  | _ + 1, _, _, [] => (none, 0)
  | count + 1, code, (least, greatest), b :: rest =>
    if least ≤ b.toNat ∧ b.toNat ≤ greatest then
      let (c, taken) := laterBytes count (code * 64 + b.toNat % 64) (0x80, 0xBF) rest
      (c, taken + 1)
    else (none, 0)

/-- The characters of some bytes; pieces that are no text are `none`. -/
def decodePieces : Nat → List UInt8 → List (Option Char)
  | 0, _ => []
  | _ + 1, [] => []
  | fuel + 1, b :: rest =>
    if b.toNat < 0x80 then some (Char.ofNat b.toNat) :: decodePieces fuel rest
    else
      match leadByte? b.toNat with
      | none => none :: decodePieces fuel rest
      | some (bounds, count) =>
        let lead := b.toNat % Nat.pow 2 (6 - count)
        let (c, taken) := laterBytes count lead bounds rest
        c :: decodePieces fuel (rest.drop taken)

/-- The text that bytes spell, if they are text. -/
def decode? (bytes : List UInt8) : Option String :=
  ((decodePieces bytes.length bytes).mapM id).map String.ofList

/-- The text that bytes spell, with replacement characters where they are no text. -/
def decodeLossy (bytes : List UInt8) : String :=
  String.ofList ((decodePieces bytes.length bytes).map (·.getD replacementCharacter))

end Picklist.Unicode
