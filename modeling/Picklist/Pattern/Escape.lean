import Picklist.Pattern.Basic
import Picklist.Pattern.Literal

/-!
# Backslash sequences and counts

The parts of a pattern's text that are read from several characters: what follows a backslash, and
the bounds of a counted repetition. Each reader answers with what it read and the text behind it,
or with nothing when the text is not well formed.
-/

set_option autoImplicit false

namespace Picklist.Pattern

/-- What a backslash sequence stands for. -/
inductive Escaped where
  | char (c : Char)
  | set (s : CharSet)
  | condition (a : Assertion)
  deriving Repr, DecidableEq

/-- The value of a hexadecimal digit. -/
def hexDigit? (c : Char) : Option Nat :=
  if '0' ≤ c ∧ c ≤ '9' then some (c.toNat - '0'.toNat)
  else if 'a' ≤ c ∧ c ≤ 'f' then some (c.toNat - 'a'.toNat + 10)
  else if 'A' ≤ c ∧ c ≤ 'F' then some (c.toNat - 'A'.toNat + 10)
  else none

/-- The number written by hexadecimal digits, at least one. -/
def hexNumber? (digits : List Char) : Option Nat :=
  if digits.isEmpty then none
  else digits.foldlM (fun value c => (hexDigit? c).map (value * 16 + ·)) 0

/-- The character with the given code point, if that is a scalar value. -/
def charOfCode? (code : Nat) : Option Char :=
  if code.isValidChar then some (Char.ofNat code) else none

/-- Reads a code point: in braces with any number of digits, else with exactly `width` digits. -/
def readHex (width : Nat) : List Char → Option (Char × List Char)
  | '\x7b' :: cs =>
    match cs.span (· != '\x7d') with
    | (digits, _ :: rest) => (hexNumber? digits >>= charOfCode?).map (·, rest)
    | (_, []) => none
  | cs =>
    if cs.length < width then none
    else (hexNumber? (cs.take width) >>= charOfCode?).map (·, cs.drop width)

/-- Whether the character can stand in the name of a special word boundary. -/
def isBoundaryNameCharacter (c : Char) : Bool :=
  c.isAlpha || c == '-'

/-- The condition with the given name. -/
def boundaryOfName? (name : String) : Option Assertion :=
  [("start", Assertion.wordStart), ("end", .wordEnd), ("start-half", .wordStartHalf),
    ("end-half", .wordEndHalf)].lookup name

/-- Reads what follows the letter of a word boundary: a name in braces makes it a special one, and
braces with anything else are left for a repetition. -/
def readBoundary : List Char → Option (Assertion × List Char)
  | '\x7b' :: cs =>
    match cs with
    | [] => none
    | c :: _ =>
      if isBoundaryNameCharacter c then
        match cs.span isBoundaryNameCharacter with
        | (name, '\x7d' :: rest) => (boundaryOfName? (String.ofList name)).map (·, rest)
        | _ => none
      else some (.wordBoundary, '\x7b' :: cs)
  | cs => some (.wordBoundary, cs)

/-- The characters that are written with a letter behind the backslash. -/
def controlEscapes : List (Char × Char) :=
  [('a', '\x07'), ('f', '\x0c'), ('t', '\t'), ('n', '\n'), ('r', '\r'), ('v', '\x0b')]

/-- The sets that are written with a letter behind the backslash. -/
def setEscapes : List (Char × CharSet) :=
  [('d', .digit), ('s', .space), ('w', .word), ('D', .complement .digit), ('S', .complement .space),
    ('W', .complement .word)]

/-- The conditions that are written with one character behind the backslash. -/
def conditionEscapes : List (Char × Assertion) :=
  [('A', .textStart), ('z', .textEnd), ('B', .notWordBoundary), ('<', .wordStart), ('>', .wordEnd)]

/-- The number of digits of a code point that is written without braces. -/
def hexWidths : List (Char × Nat) :=
  [('x', 2), ('u', 4), ('U', 8)]

/-- Reads what follows a backslash. A character with a meaning of its own stands for itself, and so
does any ASCII character that is neither a letter nor a digit. -/
def readEscape : List Char → Option (Escaped × List Char)
  | [] => none
  | c :: cs =>
    if isMeta c then some (.char c, cs)
    else if let some width := hexWidths.lookup c then
      (readHex width cs).map fun (d, rest) => (.char d, rest)
    else if let some s := setEscapes.lookup c then some (.set s, cs)
    else if let some d := controlEscapes.lookup c then some (.char d, cs)
    else if let some a := conditionEscapes.lookup c then some (.condition a, cs)
    else if c == 'b' then (readBoundary cs).map fun (a, rest) => (.condition a, rest)
    else if c.toNat < 128 && !c.isAlphanum then some (.char c, cs)
    else none

/-- Reads a decimal number with optional blanks around it; it has to fit into 32 bits. -/
def readCount (cs : List Char) : Option (Nat × List Char) :=
  let (digits, rest) := (cs.dropWhile Unicode.isWhiteSpace).span Char.isDigit
  let value := digits.foldl (fun value c => value * 10 + (c.toNat - '0'.toNat)) 0
  if digits.isEmpty || value ≥ Nat.pow 2 32 then none
  else some (value, rest.dropWhile Unicode.isWhiteSpace)

/-- Reads the bounds of a counted repetition, from behind the opening brace to behind the closing
one. -/
def readBounds (cs : List Char) : Option ((Nat × Option Nat) × List Char) :=
  match readCount cs with
  | some (least, '\x7d' :: rest) => some ((least, some least), rest)
  | some (least, ',' :: '\x7d' :: rest) => some ((least, none), rest)
  | some (least, ',' :: more) =>
    match readCount more with
    | some (most, '\x7d' :: rest) => if least ≤ most then some ((least, some most), rest) else none
    | _ => none
  | _ => none

end Picklist.Pattern
