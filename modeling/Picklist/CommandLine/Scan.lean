import Picklist.CommandLine.Option
import Picklist.Number.Decimal
import Picklist.Report

/-!
# Scanning the command line

The words of the command line are read from left to right. A word with two hyphens in front names an
option, and may carry its value behind an equals sign; a word with one hyphen is a bundle of
letters, of which the first that takes a value takes the rest of the word. A value may also be the
next word, unless that looks like an option. An option with its value counts when the next option or
the end is reached.
-/

set_option autoImplicit false

namespace Picklist.CommandLine

/-- Why the scan of a command line stops. -/
inductive UsageError where
  /-- There is no such option, or a word stands where none is expected. -/
  | unexpectedWord
  /-- A value is missing or is none of the possible ones. -/
  | invalidValue
  /-- A value is no natural number of 64 bits. -/
  | notANumber
  | repeatedOption
  | unknownCommand
  /-- A value is attached to an option that takes none. -/
  | needlessValue
  | helpAsked
  | versionAsked
  deriving Repr, DecidableEq, Inhabited

namespace UsageError

/-- Whether something was asked for that ends the scan, so that nothing is wrong. -/
def isRequest (e : UsageError) : Bool := e == .helpAsked || e == .versionAsked

/-- What is wrong, or the answer to what was asked for. -/
def message : UsageError → String
  | .unexpectedWord => "unexpected argument"
  | .invalidValue => "invalid value"
  | .notANumber => "not a number"
  | .repeatedOption => "option given twice"
  | .unknownCommand => "unknown command"
  | .needlessValue => "value for an option that takes none"
  | .helpAsked => "usage: listkit [options] [pick | sort | filter] [options]"
  | .versionAsked => "listkit"

end UsageError

/-- Options that were given, with their values; options without value have an empty one. -/
abbrev Given := List (OptionName × String)

/-- Whether an option was given. -/
def Given.has (given : Given) (name : OptionName) : Bool := given.any (·.1 = name)

/-- The values of an option. -/
def Given.values (given : Given) (name : OptionName) : List String :=
  (given.filter (·.1 = name)).map (·.2)

/-- The value of an option. -/
def Given.value? (given : Given) (name : OptionName) : Option String := (given.values name).head?

/-- What has been read of one level of the command line. -/
structure Scan where
  given : Given := []
  /-- The last option, which takes a value, and its value if that has been read. -/
  pending : Option (OptionName × Option String) := none
  /-- Whether a word of two hyphens has ended the options. -/
  ended : Bool := false
  deriving Repr, DecidableEq, Inhabited

/-- Checks a value. -/
def checkValue (kind : ValueKind) (value : String) : Except UsageError Unit :=
  match kind with
  | .none => .ok ()
  | .text => .ok ()
  | .path => if value.isEmpty then .error .invalidValue else .ok ()
  | .natural =>
    if (naturalUpTo? 10 largestWord value.toList).isSome then .ok () else .error .notANumber
  | .format => if (OutputFormat.ofName? value).isSome then .ok () else .error .invalidValue

/-- Adds an option to those that count. -/
def Given.add (given : Given) (name : OptionName) (value : String) : Except UsageError Given :=
  if !name.repeats && given.has name then .error .repeatedOption
  else do
    checkValue name.valueKind value
    .ok (given ++ [(name, value)])

namespace Scan

/-- Makes the pending option count. -/
def settle (s : Scan) : Except UsageError Scan :=
  match s.pending with
  | none => .ok s
  | some (_, none) => .error .invalidValue
  | some (name, some value) => do
    let given ← s.given.add name value
    .ok { s with given, pending := none }

/-- Whether the last option waits for its value. -/
def isWaiting (s : Scan) : Bool :=
  match s.pending with
  | some (_, none) => true
  | _ => false

/-- Reads an option that takes no value. -/
def takeFlag (s : Scan) (name : OptionName) : Except UsageError Scan := do
  let s ← s.settle
  match name with
  | .help => .error .helpAsked
  | .version => .error .versionAsked
  | _ => do
    let given ← s.given.add name ""
    .ok { s with given }

/-- Reads an option with the value that is attached to it. -/
def takeAttached (s : Scan) (name : OptionName) (value : String) : Except UsageError Scan := do
  let s ← s.settle
  let given ← s.given.add name value
  .ok { s with given }

/-- Reads an option whose value is the next word. -/
def takeWaiting (s : Scan) (name : OptionName) : Except UsageError Scan := do
  let s ← s.settle
  .ok { s with pending := some (name, none) }

/-- Reads a word with two hyphens in front, which are left out here. -/
def takeLong (level : Level) (s : Scan) (cs : List Char) : Except UsageError Scan :=
  let name := cs.takeWhile (· != '=')
  let attached := match cs.dropWhile (· != '=') with
    | _ :: value => some (String.ofList value)
    | [] => none
  match level.withName? (String.ofList name) with
  | none => .error .unexpectedWord
  | some option =>
    match option.valueKind == .none, attached with
    | true, some _ => .error .needlessValue
    | true, none => s.takeFlag option
    | false, some value => s.takeAttached option value
    | false, none => s.takeWaiting option

/-- Reads the letters of a bundle. -/
def takeLetters (level : Level) (s : Scan) : List Char → Except UsageError Scan
  | [] => .ok s
  | letter :: rest =>
    match level.withLetter? letter with
    | none => .error .unexpectedWord
    | some option =>
      if option.valueKind == .none then do
        let s ← s.takeFlag option
        takeLetters level s rest
      else
        match rest with
        | [] => s.takeWaiting option
        | '=' :: value => s.takeAttached option (String.ofList value)
        | value => s.takeAttached option (String.ofList value)

/-- Reads a word that is no option, and no command. -/
def takeWord (level : Level) (s : Scan) (word : String) : Except UsageError Scan :=
  match s.ended, s.pending with
  | false, some (name, none) => .ok { s with pending := some (name, some word) }
  | ended, _ =>
    match level with
    | .front =>
      if ended ∧ (word = "help" ∨ (CommandName.ofText? word).isSome) then .error .unexpectedWord
      else .error .unknownCommand
    | .behind _ => .error .unexpectedWord

/-- Reads a word that is no command. -/
def take (level : Level) (s : Scan) (word : String) : Except UsageError Scan :=
  if s.ended then s.takeWord level word
  else
    match word.toList with
    | ['-', '-'] => .ok { s with ended := true }
    | '-' :: '-' :: cs => s.takeLong level cs
    | '-' :: c :: cs => s.takeLetters level (c :: cs)
    | _ => s.takeWord level word

end Scan

/-- The command that a word names, where one may stand. -/
def commandAt? (level : Level) (s : Scan) (word : String) : Option CommandName :=
  if level = .front ∧ !s.ended ∧ !s.isWaiting then CommandName.ofText? word else none

/-- What a question for help about the given words is answered with. -/
def helpAbout : List String → UsageError
  | [] => .helpAsked
  | [word] =>
    if word = "help" ∨ (CommandName.ofText? word).isSome then .helpAsked else .unknownCommand
  | _ => .unknownCommand

/-- Reads the words of a level. Answers with the command and the words behind it, if there is
one. -/
def scanWords (level : Level) (s : Scan) :
    List String → Except UsageError (Scan × Option (CommandName × List String))
  | [] => .ok (s, none)
  | word :: rest =>
    match commandAt? level s word with
    | some command => .ok (s, some (command, rest))
    | none =>
      if level = .front ∧ !s.ended ∧ !s.isWaiting ∧ word = "help" then .error (helpAbout rest)
      else do
        let s ← s.take level word
        scanWords level s rest

end Picklist.CommandLine
