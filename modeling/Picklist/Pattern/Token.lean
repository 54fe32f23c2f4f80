import Picklist.Pattern.Bracket

/-!
# Tokens of a pattern's text

A pattern's text is cut into tokens: characters, classes, conditions, repetitions, groups and
branches. Text that cannot be cut is no pattern.
-/

set_option autoImplicit false

namespace Picklist.Pattern

/-- A switch that a pattern can set for itself. -/
inductive Flag where
  /-- Upper and lower case are the same. -/
  | ignoreCase
  /-- Line boundaries count for the caret and the dollar sign. -/
  | multiLine
  /-- The dot matches a line feed too. -/
  | dotAll
  | swapGreed
  deriving Repr, DecidableEq

/-- Switches with their new values. -/
abbrev FlagChanges := List (Flag × Bool)

/-- A token of a pattern's text. -/
inductive Token where
  /-- One character that stands for itself. -/
  | literal (c : Char)
  | set (s : CharSet)
  | dot
  /-- The start of the text or of a line. -/
  | caret
  /-- The end of the text or of a line. -/
  | dollar
  /-- A condition written with a backslash. -/
  | condition (a : Assertion)
  /-- A bound on the copies of what stands before. -/
  | repetition (least : Nat) (most : Option Nat) (greedy : Bool)
  /-- The start of a group, with its name and the switches set inside it. -/
  | groupStart (name : Option String) (changes : FlagChanges)
  | groupEnd
  /-- Switches set for the rest of the group. -/
  | directive (changes : FlagChanges)
  | bar
  deriving Repr, DecidableEq

/-- The switch with the given letter. -/
def flagOfLetter? (c : Char) : Option Flag :=
  [('i', Flag.ignoreCase), ('m', .multiLine), ('s', .dotAll), ('U', .swapGreed)].lookup c

/-- Reads the letters of a list of switches: each switch once, those behind a hyphen off, and at
least one behind the hyphen. -/
def readFlags? (letters : List Char) : Option FlagChanges :=
  let (on, off) := letters.span (· != '-')
  let switches (value : Bool) (cs : List Char) : Option FlagChanges :=
    cs.mapM fun c => (flagOfLetter? c).map (·, value)
  match off with
  | [] => switches true on >>= distinctFlags?
  | [_] => none
  | _ :: off => do distinctFlags? ((← switches true on) ++ (← switches false off))
where
  /-- The changes, unless a switch occurs twice. -/
  distinctFlags? (changes : FlagChanges) : Option FlagChanges :=
    if (changes.map Prod.fst).Nodup then some changes else none

/-- Whether the character can start the name of a group. -/
def isNameStart (c : Char) : Bool :=
  c == '_' || (Unicode.isWordCharacter c && !Unicode.isDecimalDigit c)

/-- Whether the character can stand in the name of a group. -/
def isNameCharacter (c : Char) : Bool :=
  c == '.' || c == '[' || c == ']' || Unicode.isWordCharacter c

/-- Reads the name of a group, from behind its opening angle bracket. -/
def readName (cs : List Char) : Option (Token × List Char) :=
  match cs.span (· != '>') with
  | (c :: name, '>' :: rest) =>
    if isNameStart c && name.all isNameCharacter then
      some (.groupStart (some (String.ofList (c :: name))) [], rest)
    else none
  | _ => none

/-- Reads what follows the opening parenthesis of a group. -/
def readGroup : List Char → Option (Token × List Char)
  | '?' :: 'P' :: '<' :: cs => readName cs
  | '?' :: '<' :: cs =>
    match cs with
    | '=' :: _ => none
    | '!' :: _ => none
    | _ => readName cs
  | '?' :: cs =>
    match cs.span fun c => c != ':' && c != ')' with
    | ([], ')' :: _) => none
    | (letters, ')' :: rest) => (readFlags? letters).map fun changes => (.directive changes, rest)
    | (letters, _ :: rest) =>
      (readFlags? letters).map fun changes => (.groupStart none changes, rest)
    | (_, []) => none
  | cs => some (.groupStart none [], cs)

/-- A repetition with the given bounds; a question mark behind it makes it lazy. -/
def repetitionToken (least : Nat) (most : Option Nat) : List Char → Token × List Char
  | '?' :: rest => (.repetition least most false, rest)
  | rest => (.repetition least most true, rest)

/-- Reads the token that starts with the given character. -/
def readToken (c : Char) (cs : List Char) : Option (Token × List Char) :=
  match c with
  | '\\' =>
    (readEscape cs).map fun (escaped, rest) =>
      match escaped with
      | .char d => (.literal d, rest)
      | .set s => (.set s, rest)
      | .condition a => (.condition a, rest)
  | '.' => some (.dot, cs)
  | '^' => some (.caret, cs)
  | '$' => some (.dollar, cs)
  | '|' => some (.bar, cs)
  | ')' => some (.groupEnd, cs)
  | '(' => readGroup cs
  | '[' => (readClass cs).map fun (s, rest) => (.set s, rest)
  | '?' => some (repetitionToken 0 (some 1) cs)
  | '*' => some (repetitionToken 0 none cs)
  | '+' => some (repetitionToken 1 none cs)
  | '\x7b' => (readBounds cs).map fun (bounds, rest) => repetitionToken bounds.1 bounds.2 rest
  | c => some (.literal c, cs)

/-- The tokens of a pattern's text. -/
def tokens? : List Char → Option (List Token)
  | [] => some []
  | c :: cs =>
    match readToken c cs with
    | some (token, rest) =>
      if _h : rest.length ≤ cs.length then (tokens? rest).map (token :: ·) else none
    | none => none
termination_by cs => cs.length

end Picklist.Pattern
