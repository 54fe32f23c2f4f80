import Picklist.Number.Decimal
import Picklist.Shell.Word

/-!
# Shell scripts

A script is a list of pipelines. Each of them is run unless what joins it to the one before says
otherwise. A command is a list of words, with values for variables in front and redirections
anywhere.
-/

set_option autoImplicit false

namespace Picklist.Shell

/-- A token of a script. -/
inductive Token where
  | word (w : Word)
  | operator (text : String)
  /-- A redirection of the stream with the given number. -/
  | redirect (stream : Nat) (operator : String)
  | script (cs : List Char)
  deriving Repr, DecidableEq, Inhabited

/-- Takes an operator. -/
def operator? (cs : List Char) : Option (String × List Char) :=
  match cs with
  | '&' :: '&' :: rest => some ("&&", rest)
  | '|' :: '|' :: rest => some ("||", rest)
  | ';' :: ';' :: rest => some (";;", rest)
  | '&' :: rest => some ("&", rest)
  | '|' :: rest => some ("|", rest)
  | ';' :: rest => some (";", rest)
  | '\n' :: rest => some ("newline", rest)
  | ')' :: rest => some (")", rest)
  | _ => none

/-- Takes the sign of a redirection. -/
def redirection? (cs : List Char) : Option (String × List Char) :=
  match cs with
  | '>' :: '&' :: rest => some (">&", rest)
  | '>' :: '>' :: rest => some (">>", rest)
  | '>' :: '|' :: rest => some (">", rest)
  | '>' :: rest => some (">", rest)
  | '<' :: rest => some ("<", rest)
  | _ => none

/-- The stream that a redirection is about when it does not say. -/
def usualStream (operator : String) : Nat := if operator = "<" then 0 else 1

/-- Cuts a script into tokens, with as many steps as given. -/
def tokens : Nat → List Char → Except Fault (List Token)
  | 0, _ => .ok []
  | fuel + 1, cs => do
    match cs with
    | [] => .ok []
    | ' ' :: rest => tokens fuel rest
    | '\t' :: rest => tokens fuel rest
    | '\\' :: '\n' :: rest => tokens fuel rest
    | '#' :: rest => tokens fuel (rest.dropWhile (· != '\n'))
    | '(' :: rest =>
      let (script, rest) ← enclosedScript rest
      let later ← tokens fuel rest
      .ok (.script script :: later)
    | _ =>
      let (digits, behind) := Reader.run Char.isDigit cs
      match redirection? behind, operator? cs with
      | some (sign, rest), _ =>
        let stream := if digits.isEmpty then usualStream sign else digitsValue 10 digits
        let later ← tokens fuel rest
        .ok (.redirect stream sign :: later)
      | none, some (text, rest) =>
        let later ← tokens fuel rest
        .ok (.operator text :: later)
      | none, none =>
        let (w, rest) ← word (cs.length + 1) cs
        let later ← tokens fuel rest
        .ok (.word w :: later)

/-- A redirection. -/
structure Redirect where
  stream : Nat
  operator : String
  /-- Where the stream goes, or comes from. -/
  target : Word
  deriving Repr, DecidableEq, Inhabited

/-- A command. -/
structure Command where
  assignments : List (String × Word) := []
  /-- The name of the command, and its arguments. -/
  words : List Word := []
  redirects : List Redirect := []
  /-- The script that is run instead, if there is one. -/
  script : Option (List Char) := none
  deriving Repr, DecidableEq, Inhabited

/-- When a pipeline is run. -/
inductive Joint where
  | always
  | onSuccess
  | onFailure
  deriving Repr, DecidableEq, Inhabited

/-- Commands, each of which reads what the one before prints. -/
structure Pipeline where
  joint : Joint
  commands : List Command
  deriving Repr, DecidableEq, Inhabited

/-- The variable and its value, if a word is an assignment. -/
def assignment? (w : Word) : Option (String × Word) :=
  let plain := w.takeWhile fun part => match part with
    | .text false _ => true
    | _ => false
  let cs := plain.flatMap fun part => match part with
    | .text _ cs => cs
    | _ => []
  match Reader.run isNameChar cs with
  | (c :: name, '=' :: rest) =>
    if isNameStart c then some (String.ofList (c :: name), .text false rest :: w.drop plain.length)
    else none
  | _ => none

/-- A token in words. -/
def Token.describe : Token → String
  | .word _ => "word"
  | .operator "newline" => "newline"
  | .operator text => "\x22" ++ text ++ "\x22"
  | .redirect _ _ => "redirection"
  | .script _ => "\x22(\x22"

namespace Command

/-- A command with a further word. There are none behind a script. -/
def addWord (c : Command) (w : Word) : Except Fault Command :=
  if c.script.isSome then .error (.unexpected (Token.word w).describe)
  else
    match c.words, assignment? w with
    | [], some a => .ok { c with assignments := c.assignments ++ [a] }
    | _, _ => .ok { c with words := c.words ++ [w] }

/-- Whether there is nothing in a command. -/
def isEmpty (c : Command) : Bool :=
  c.assignments.isEmpty && c.words.isEmpty && c.redirects.isEmpty && c.script.isNone

/-- A command that is a script. Behind a single word a parenthesis can only be closed at once. -/
def addScript (c : Command) (cs : List Char) : Except Fault Command :=
  if cs.all isBreak then .error (.unexpected "\x22)\x22")
  else if c.isEmpty then .ok { c with script := some cs }
  else if c.words.length = 1 ∧ c.assignments.isEmpty ∧ c.redirects.isEmpty then
    .error (.unclosed "word")
  else .error (.unexpected (Token.script cs).describe)

end Command

/-- Reads pipelines. The commands of the current pipeline and the command that is being read are
given; `awaiting` says whether another command must follow. -/
def pipelines (joint : Joint) (before : List Command) (current : Command) (awaiting : Bool) :
    List Token → Except Fault (List Pipeline)
  | [] =>
    if current.isEmpty then
      if awaiting then .error (.unexpected scriptEnd) else .ok []
    else .ok [⟨joint, before ++ [current]⟩]
  | .word w :: rest => do
    let current ← current.addWord w
    pipelines joint before current false rest
  | .script cs :: rest => do
    let current ← current.addScript cs
    pipelines joint before current false rest
  | .redirect stream sign :: .word w :: rest =>
    let redirect : Redirect := ⟨stream, sign, w⟩
    pipelines joint before { current with redirects := current.redirects ++ [redirect] } false rest
  | .redirect _ _ :: t :: _ => .error (.unexpected t.describe)
  | .redirect _ _ :: [] => .error (.unexpected scriptEnd)
  | .operator text :: rest =>
    let t := Token.operator text
    if current.isEmpty then
      if text = "newline" then pipelines joint before current awaiting rest
      else .error (.unexpected t.describe)
    else
      let done := before ++ [current]
      match text with
      | "|" => pipelines joint done {} true rest
      | "&&" => do
        let later ← pipelines .onSuccess [] {} true rest
        .ok (⟨joint, done⟩ :: later)
      | "||" => do
        let later ← pipelines .onFailure [] {} true rest
        .ok (⟨joint, done⟩ :: later)
      | ";" => do
        let later ← pipelines .always [] {} false rest
        .ok (⟨joint, done⟩ :: later)
      | "&" => do
        let later ← pipelines .always [] {} false rest
        .ok (⟨joint, done⟩ :: later)
      | "newline" => do
        let later ← pipelines .always [] {} false rest
        .ok (⟨joint, done⟩ :: later)
      | _ => .error (.unexpected t.describe)

/-- Reads a script. -/
def script (cs : List Char) : Except Fault (List Pipeline) := do
  let ts ← tokens (cs.length + 1) cs
  pipelines .always [] {} false ts

end Picklist.Shell
