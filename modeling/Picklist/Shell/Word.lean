import Picklist.Text.Reader

/-!
# Words of shell commands

A word is put together from plain text, quoted text, parameters and the output of commands. Within
single quotes everything stands for itself; within double quotes parameters are replaced.
-/

set_option autoImplicit false

namespace Picklist.Shell

/-- What a dollar sign in front of a name stands for. -/
inductive Parameter where
  | named (name : String)
  /-- An argument; number zero is the name of the script. -/
  | argument (n : Nat)
  | count
  | all
  | joined
  /-- The status of the last command. -/
  | status
  | process
  deriving Repr, DecidableEq, Inhabited

/-- A part of a word. -/
inductive WordPart where
  | text (quoted : Bool) (cs : List Char)
  | parameter (quoted : Bool) (p : Parameter)
  | output (quoted : Bool) (script : List Char)
  deriving Repr, DecidableEq, Inhabited

/-- A word. -/
abbrev Word := List WordPart

/-- Why a script cannot be read. -/
inductive Fault where
  | openQuote
  /-- A back quote is not closed. -/
  | openBackQuote
  | openBrace
  /-- Something stands where it is not expected. -/
  | unexpected (what : String)
  /-- Something stands where only a closing parenthesis may. -/
  | unclosed (what : String)
  /-- A parameter in braces cannot be read. -/
  | badParameter
  deriving Repr, DecidableEq, Inhabited

namespace Fault

/-- What is wrong, in words. -/
def message : Fault → String
  | .openQuote => "Syntax error: Unterminated quoted string"
  | .openBackQuote => "Syntax error: EOF in backquote substitution"
  | .openBrace => "Syntax error: Missing '\x7d'"
  | .unexpected what => "Syntax error: " ++ what ++ " unexpected"
  | .unclosed what => "Syntax error: " ++ what ++ " unexpected (expecting \x22)\x22)"
  | .badParameter => "Bad substitution"

end Fault

/-- The end of a script, in words. -/
def scriptEnd : String := "end of file"

/-- Whether a character ends a word. -/
def isBreak (c : Char) : Bool :=
  c == ' ' || c == '\t' || c == '\n' || c == ';' || c == '&' || c == '|' || c == '<' || c == '>'
    || c == '(' || c == ')'

/-- Whether a character may start the name of a variable. -/
def isNameStart (c : Char) : Bool := c.isAlpha || c == '_'

/-- Whether a character may be part of the name of a variable. -/
def isNameChar (c : Char) : Bool := c.isAlphanum || c == '_'

/-- The parameter with a sign for its name. -/
def specialParameter? : Char → Option Parameter
  | '#' => some .count
  | '@' => some .all
  | '*' => some .joined
  | '?' => some .status
  | '$' => some .process
  | _ => none

/-- Takes the name of a parameter. -/
def parameterName (cs : List Char) : Option (Parameter × List Char) :=
  match cs with
  | [] => none
  | c :: rest =>
    if isNameStart c then
      let (name, rest) := Reader.run isNameChar cs
      some (.named (String.ofList name), rest)
    else if c.isDigit then some (.argument (c.toNat - '0'.toNat), rest)
    else (specialParameter? c).map fun p => (p, rest)

/-- What encloses the place in a script that is being read. -/
structure Enclosure where
  level : Nat := 0
  quote : Option Char := none
  /-- Whether a backslash stands in front. -/
  escaped : Bool := false
  deriving Repr, DecidableEq, Inhabited

namespace Enclosure

/-- Whether a character counts as itself. -/
def isLiteral (e : Enclosure) (c : Char) : Bool :=
  e.escaped || match e.quote with
    | none => false
    | some sign => c != sign && (sign == '\x27' || c != '\\')

/-- What encloses the place behind a character. -/
def next (e : Enclosure) (c : Char) : Enclosure :=
  if e.isLiteral c then { e with escaped := false }
  else if c = '\\' then { e with escaped := true }
  else if c = '\x27' ∨ c = '\x22' then { e with quote := if e.quote.isSome then none else some c }
  else if c = '(' then { e with level := e.level + 1 }
  else if c = ')' then { e with level := e.level - 1 }
  else e

/-- Whether a character closes the outermost parenthesis. -/
def isClosedBy (e : Enclosure) (c : Char) : Bool := c == ')' && e.level == 0 && !e.isLiteral c

end Enclosure

/-- Takes a script up to the parenthesis that closes it. Parentheses in quotes do not count. -/
def enclosed (e : Enclosure) : List Char → Option (List Char × List Char)
  | [] => none
  | c :: rest =>
    if e.isClosedBy c then some ([], rest)
    else (enclosed (e.next c) rest).map fun (cs, rest) => (c :: cs, rest)

/-- Takes a script behind its opening parenthesis. -/
def enclosedScript (cs : List Char) : Except Fault (List Char × List Char) :=
  match enclosed {} cs with
  | some r => .ok r
  | none => .error (.unclosed scriptEnd)

/-- Takes what stands behind a dollar sign. Where nothing there has a meaning, the sign stands for
itself. -/
def dollar (quoted : Bool) (cs : List Char) : Except Fault (WordPart × List Char) :=
  match cs with
  | '(' :: rest => do
    let (script, rest) ← enclosedScript rest
    .ok (.output quoted script, rest)
  | '\x7b' :: rest =>
    match parameterName rest with
    | some (p, '\x7d' :: rest) => .ok (.parameter quoted p, rest)
    | _ => .error (if rest.contains '\x7d' then .badParameter else .openBrace)
  | _ =>
    match parameterName cs with
    | some (p, rest) => .ok (.parameter quoted p, rest)
    | none => .ok (.text quoted ['$'], cs)

/-- Takes a script up to a back quote. -/
def backQuoted (quoted : Bool) (cs : List Char) : Except Fault (WordPart × List Char) :=
  let (script, rest) := Reader.run (· != '\x60') cs
  match rest with
  | _ :: rest => .ok (.output quoted script, rest)
  | [] => .error .openBackQuote

/-- Whether a backslash within double quotes takes the meaning of the character behind it. -/
def isEscapable (c : Char) : Bool := c == '$' || c == '\x60' || c == '\x22' || c == '\\'

/-- Takes the rest of a text in double quotes, with as many steps as given. -/
def doubleQuoted : Nat → List Char → Except Fault (Word × List Char)
  | 0, _ => .error .openQuote
  | fuel + 1, cs => do
    match cs with
    | [] => .error .openQuote
    | '\x22' :: rest => .ok ([], rest)
    | '\\' :: '\n' :: rest => doubleQuoted fuel rest
    | '\\' :: c :: rest =>
      let (later, rest) ← doubleQuoted fuel rest
      .ok (.text true (if isEscapable c then [c] else ['\\', c]) :: later, rest)
    | '$' :: rest =>
      let (part, rest) ← dollar true rest
      let (later, rest) ← doubleQuoted fuel rest
      .ok (part :: later, rest)
    | '\x60' :: rest =>
      let (part, rest) ← backQuoted true rest
      let (later, rest) ← doubleQuoted fuel rest
      .ok (part :: later, rest)
    | c :: rest =>
      let (later, rest) ← doubleQuoted fuel rest
      .ok (.text true [c] :: later, rest)

/-- Takes a text in single quotes behind the opening one. -/
def singleQuoted (cs : List Char) : Except Fault (WordPart × List Char) :=
  let (text, rest) := Reader.run (· != '\x27') cs
  match rest with
  | _ :: rest => .ok (.text true text, rest)
  | [] => .error .openQuote

/-- Takes a word, with as many steps as given. Quotes with nothing between them make an empty
text. -/
def word : Nat → List Char → Except Fault (Word × List Char)
  | 0, cs => .ok ([], cs)
  | fuel + 1, cs => do
    match cs with
    | [] => .ok ([], [])
    | '\x27' :: rest =>
      let (part, rest) ← singleQuoted rest
      let (later, rest) ← word fuel rest
      .ok (part :: later, rest)
    | '\x22' :: rest =>
      let (parts, rest) ← doubleQuoted (rest.length + 1) rest
      let (later, rest) ← word fuel rest
      .ok ((if parts.isEmpty then [.text true []] else parts) ++ later, rest)
    | ['\\'] => .ok ([.text true ['\\']], [])
    | '\\' :: '\n' :: rest => word fuel rest
    | '\\' :: c :: rest =>
      let (later, rest) ← word fuel rest
      .ok (.text true [c] :: later, rest)
    | '$' :: rest =>
      let (part, rest) ← dollar false rest
      let (later, rest) ← word fuel rest
      .ok (part :: later, rest)
    | '\x60' :: rest =>
      let (part, rest) ← backQuoted false rest
      let (later, rest) ← word fuel rest
      .ok (part :: later, rest)
    | c :: rest =>
      if isBreak c then .ok ([], cs)
      else
        let (later, rest) ← word fuel rest
        .ok (.text false [c] :: later, rest)

end Picklist.Shell
