import Picklist.Number.Decimal
import Picklist.Text.Reader

/-!
# Quoted texts in TOML

Basic strings know escapes, literal strings do not. Strings with three quotes at each end may go
over several lines; a line break right behind the opening quotes is dropped, and a backslash at the
end of a line takes the blank space up to the next text away.
-/

set_option autoImplicit false

namespace Picklist.Toml

/-- Whether a character may stand for itself in texts and comments of one line. -/
def isPlain (c : Char) : Bool :=
  c == '\t' || (0x20 ≤ c.toNat && c.toNat != 0x7f)

/-- Whether a character is a space or a tab. -/
def isGap (c : Char) : Bool := c == ' ' || c == '\t'

/-- Takes a line break. -/
def lineBreak? : List Char → Option (List Char)
  | '\n' :: rest => some rest
  | '\r' :: '\n' :: rest => some rest
  | _ => none

/-- The character with the given code, if it is one. -/
def scalar? (code : Nat) : Option Char :=
  if code.isValidChar then some (Char.ofNat code) else none

/-- Takes the given number of hexadecimal digits that spell a character. -/
def codePoint (count : Nat) (cs : List Char) : Option (Char × List Char) :=
  let digits := cs.take count
  if digits.length = count ∧ digits.all (isDigitIn 16) then
    (scalar? (digitsValue 16 digits)).map fun c => (c, cs.drop count)
  else none

/-- Takes what stands behind the backslash of an escape. -/
def escape : Reader Char
  | 'b' :: rest => some ('\x08', rest)
  | 't' :: rest => some ('\t', rest)
  | 'n' :: rest => some ('\n', rest)
  | 'f' :: rest => some ('\x0c', rest)
  | 'r' :: rest => some ('\r', rest)
  | 'e' :: rest => some ('\x1b', rest)
  | '\x22' :: rest => some ('\x22', rest)
  | '\\' :: rest => some ('\\', rest)
  | 'x' :: rest => codePoint 2 rest
  | 'u' :: rest => codePoint 4 rest
  | 'U' :: rest => codePoint 8 rest
  | _ => none

/-- Takes the rest of a basic string behind its opening quote. -/
def basicBody : Nat → Reader (List Char)
  | 0, _ => none
  | fuel + 1, cs =>
    match cs with
    | [] => none
    | '\x22' :: rest => some ([], rest)
    | '\\' :: rest => do
      let (c, rest) ← escape rest
      let (text, rest) ← basicBody fuel rest
      some (c :: text, rest)
    | c :: rest =>
      if isPlain c then (basicBody fuel rest).map fun (text, rest) => (c :: text, rest) else none

/-- Takes the rest of a literal string behind its opening quote. -/
def literalBody (cs : List Char) : Option (List Char × List Char) :=
  let (text, rest) := Reader.run (fun c => isPlain c && c != '\x27') cs
  match rest with
  | '\x27' :: rest => some (text, rest)
  | _ => none

/-- The quotes that end a text of several lines: three, and up to two more that belong to the
text. -/
def closingQuotes? (quote : Char) (cs : List Char) : Option (List Char × List Char) :=
  let count := (cs.takeWhile (· == quote)).length
  if count < 3 then none
  else
    let taken := min count 5
    some (List.replicate (taken - 3) quote, cs.drop taken)

/-- Drops spaces, tabs and line breaks. -/
def dropBlank : List Char → List Char
  | '\r' :: '\n' :: rest => dropBlank rest
  | '\n' :: rest => dropBlank rest
  | ' ' :: rest => dropBlank rest
  | '\t' :: rest => dropBlank rest
  | cs => cs

/-- Takes the rest of a text of several lines behind its opening quotes. -/
def linesBody (quote : Char) (escapes : Bool) : Nat → Reader (List Char)
  | 0, _ => none
  | fuel + 1, cs =>
    match closingQuotes? quote cs with
    | some (text, rest) => some (text, rest)
    | none =>
      match lineBreak? cs with
      | some rest =>
        (linesBody quote escapes fuel rest).map fun (text, rest) => ('\n' :: text, rest)
      | none =>
        match cs with
        | [] => none
        | c :: rest =>
          if c = '\\' ∧ escapes then
            match lineBreak? (rest.dropWhile isGap) with
            | some next => linesBody quote escapes fuel (dropBlank next)
            | none => do
              let (c, rest) ← escape rest
              let (text, rest) ← linesBody quote escapes fuel rest
              some (c :: text, rest)
          else if isPlain c then
            (linesBody quote escapes fuel rest).map fun (text, rest) => (c :: text, rest)
          else none

/-- Takes a quoted text of one line. -/
def quotedLine (cs : List Char) : Option (List Char × List Char) :=
  match cs with
  | '\x22' :: rest => basicBody cs.length rest
  | '\x27' :: rest => literalBody rest
  | _ => none

/-- Takes a quoted text of any kind. -/
def quoted (cs : List Char) : Option (List Char × List Char) :=
  match cs with
  | '\x22' :: '\x22' :: '\x22' :: rest =>
    linesBody '\x22' true cs.length ((lineBreak? rest).getD rest)
  | '\x27' :: '\x27' :: '\x27' :: rest =>
    linesBody '\x27' false cs.length ((lineBreak? rest).getD rest)
  | _ => quotedLine cs

end Picklist.Toml
