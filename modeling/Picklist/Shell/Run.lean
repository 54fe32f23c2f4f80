import Picklist.Shell.Script
import Picklist.Shell.Utility

/-!
# Running scripts

A script is run on a state that holds what it has printed so far. The commands of a pipeline, and
those whose output becomes part of a word, run on a copy of the state: of what they do only the
output, the status and the files stay. Once a script has ended nothing more is run.

This is a shell for simple scripts, with few utilities and no compound commands. The program runs
command lines in the shell that its surroundings have, which may be any other.
-/

set_option autoImplicit false

namespace Picklist.Shell

/-- The state of a script. -/
structure State where
  name : String
  arguments : List (List Char) := []
  bindings : List (String × List Char) := []
  fileAt : Path → Option (List UInt8) := fun _ => none
  input : List UInt8 := []
  output : List UInt8 := []
  /-- What is printed about things that are wrong. -/
  errors : List UInt8 := []
  /-- The status of the last command. -/
  status : Nat := 0
  /-- The status of the last script in the words of the current command. -/
  wordStatus : Nat := 0
  ending : Option Ending := none

namespace State

/-- The value of a variable; one that is not set is empty. -/
def valueOf (s : State) (name : String) : List Char := (s.bindings.lookup name).getD []

/-- Sets a variable. -/
def assign (s : State) (name : String) (value : List Char) : State :=
  { s with bindings := (name, value) :: s.bindings }

/-- The copy of a state on which other commands are run. -/
def branch (s : State) (input : List UInt8) : State := { s with input := input, output := [] }

/-- The state after other commands were run on a copy. A signal ends the whole script. -/
def join (s after : State) : State :=
  { s with
    fileAt := after.fileAt
    errors := after.errors
    status := (after.ending.map Ending.status).getD after.status
    ending := s.ending.or (after.ending.filter Ending.isKill) }

end State

/-! ## Words -/

/-- A part of an expanded word. -/
inductive Glyph where
  | char (c : Char)
  /-- Makes a field of it even if there are no characters. -/
  | mark
  | gap
  deriving Repr, DecidableEq, Inhabited

/-- Whether a character separates fields. -/
def isSeparator (c : Char) : Bool := c == ' ' || c == '\t' || c == '\n'

/-- A value in an expanded word: outside quotes, blank space in it separates fields. -/
def glyphs (quoted : Bool) (cs : List Char) : List Glyph :=
  if quoted then .mark :: cs.map .char
  else cs.map fun c => if isSeparator c then .gap else .char c

/-- The fields of an expanded word. -/
def fields (gs : List Glyph) : List (List Char) :=
  ((gs.splitOn .gap).filter (!·.isEmpty)).map fun group =>
    group.filterMap fun g => match g with
      | .char c => some c
      | _ => none

/-- The characters of an expanded word that is taken as one text. -/
def plainText (gs : List Glyph) : List Char :=
  gs.filterMap fun g => match g with
    | .char c => some c
    | .mark => none
    | .gap => some ' '

/-- The value of a parameter in an expanded word. -/
def State.expandParameter (s : State) (quoted : Bool) : Parameter → List Glyph
  | .named name => glyphs quoted (s.valueOf name)
  | .argument 0 => glyphs quoted s.name.toList
  | .argument (n + 1) => glyphs quoted (s.arguments[n]?.getD [])
  | .count => glyphs quoted (toString s.arguments.length).toList
  | .all => [.gap].intercalate (s.arguments.map (glyphs quoted))
  | .joined =>
    if quoted then glyphs true ([' '].intercalate s.arguments)
    else [.gap].intercalate (s.arguments.map (glyphs false))
  | .status => glyphs quoted (toString s.status).toList
  | .process => glyphs quoted (toString processNumber).toList

/-- What a script printed, as a value: without line breaks at the end and without zero bytes. -/
def printedValue (output : List UInt8) : List Char :=
  let cs := (Unicode.decodeLossy (output.filter (· != 0))).toList
  (cs.reverse.dropWhile (· == '\n')).reverse

section Expansion

variable (runScript : List Char → State → State)

/-- Expands a part of a word. The status of a script in a word is not yet that of a command. -/
def expandPart (s : State) : WordPart → List Glyph × State
  | .text true cs => (glyphs true cs, s)
  | .text false cs => (cs.map .char, s)
  | .parameter quoted p => (s.expandParameter quoted p, s)
  | .output quoted script =>
    let after := runScript script (s.branch s.input)
    let joined := s.join after
    (glyphs quoted (printedValue after.output),
      { joined with status := s.status, wordStatus := joined.status })

/-- Expands a word. -/
def expandWord (s : State) (w : Word) : List Glyph × State :=
  w.foldl (fun (gs, s) part =>
    let (more, s) := expandPart runScript s part
    (gs ++ more, s)) ([], s)

/-- Expands words to fields. -/
def expandWords (s : State) (words : List Word) : List (List Char) × State :=
  words.foldl (fun (all, s) w =>
    let (gs, s) := expandWord runScript s w
    (all ++ fields gs, s)) ([], s)

end Expansion

/-! ## Redirections -/

/-- Where a stream goes. -/
inductive Sink where
  | output
  /-- To what it prints about things that are wrong. -/
  | errors
  | file (path : Path)
  | nowhere
  deriving Repr, DecidableEq, Inhabited

/-- The file that is always empty. -/
def emptyFile : Path := "/dev/null"

/-- The streams of a command: where they go, by number, and what can be read. -/
structure Streams where
  sinks : List (Nat × Sink) := [(1, .output), (2, .errors)]
  /-- What can be read, if not what the script can read. -/
  source : Option (List UInt8) := none
  deriving Repr, DecidableEq, Inhabited

namespace Streams

/-- Where a stream goes. -/
def sink (t : Streams) (stream : Nat) : Sink := (t.sinks.lookup stream).getD .nowhere

/-- The stream that a redirection sends another one to; a dash closes it. -/
def copied (t : Streams) (target : List Char) : Except String Sink :=
  if target = ['-'] then .ok .nowhere
  else
    match (plainNumber? target).bind fun stream => t.sinks.lookup stream with
    | some sink => .ok sink
    | none => .error (String.ofList target ++ ": Bad file descriptor")

end Streams

namespace State

/-- Writes bytes to the end of a stream. -/
def write (s : State) (sink : Sink) (bytes : List UInt8) : State :=
  match sink with
  | .output => { s with output := s.output ++ bytes }
  | .errors => { s with errors := s.errors ++ bytes }
  | .file path =>
    let fileAt (p : Path) := if p = path then some ((s.fileAt p).getD [] ++ bytes) else s.fileAt p
    { s with fileAt := fileAt }
  | .nowhere => s

/-- Writes lines about things that are wrong. -/
def complain (s : State) (t : Streams) (lines : List String) : State :=
  s.write (t.sink 2) (Unicode.encode (lines.flatMap fun line => line.toList ++ ['\n']))

/-- Makes a file empty. -/
def truncate (s : State) (path : Path) : State :=
  { s with fileAt := fun p => if p = path then some [] else s.fileAt p }

/-- Redirects a stream, or says why that cannot be done. -/
def redirect (s : State) (t : Streams) (stream : Nat) (sign : String) (target : List Char) :
    Except String (State × Streams) :=
  let path := String.ofList target
  let going (sink : Sink) : Streams := { t with sinks := (stream, sink) :: t.sinks }
  let file : Sink := if path = emptyFile then .nowhere else .file path
  match sign with
  | "<" =>
    match if path = emptyFile then some [] else s.fileAt path with
    | some bytes => .ok (s, { t with source := some bytes })
    | none => .error ("cannot open " ++ path ++ ": No such file")
  | ">&" => (t.copied target).map fun sink => (s, going sink)
  | ">>" => .ok (s, going file)
  | _ => .ok (if path = emptyFile then s else s.truncate path, going file)

/-- A command that cannot be found. -/
def missing (s : State) (t : Streams) (name : List Char) : State :=
  let isKnown := name.contains '/' && (s.fileAt (String.ofList name)).isSome
  let reason := if name.isEmpty || isKnown then ": Permission denied" else ": not found"
  let s := s.complain t [scriptComplaint s.name (String.ofList name ++ reason)]
  { s with status := if isKnown then 126 else 127 }

/-- Calls a command. -/
def call (s : State) (t : Streams) (name : List Char) (arguments : List (List Char)) : State :=
  match utility? (String.ofList name) with
  | none => s.missing t name
  | some utility =>
    let effect := utility {
      script := s.name
      name := String.ofList name
      arguments := arguments
      input := t.source.getD s.input
      fileAt := s.fileAt
      lastStatus := s.status }
    let s := (s.write (t.sink 1) effect.output).complain t effect.complaints
    { s with
      input := if t.source.isSome then s.input else effect.input
      status := effect.status
      ending := s.ending.or effect.ending }

end State

/-! ## Commands -/

section Commands

variable (runScript : List Char → State → State)

/-- Carries out the redirections of a command, up to the first one that fails. -/
def runRedirects : List Redirect → State → Streams → State × Option Streams
  | [], s, t => (s, some t)
  | r :: rest, s, t =>
    let (gs, s) := expandWord runScript s r.target
    match s.redirect t r.stream r.operator (plainText gs) with
    | .ok (s, t) => runRedirects rest s t
    | .error text => ({ s.complain t [scriptComplaint s.name text] with status := 2 }, none)

/-- Sets the variables of a command. -/
def runAssignments (s : State) (assignments : List (String × Word)) : State :=
  assignments.foldl (fun s (name, w) =>
    let (gs, s) := expandWord runScript s w
    s.assign name (plainText gs)) s

/-- Runs a script in parentheses on a copy of the state. -/
def runEnclosed (cs : List Char) (t : Streams) (s : State) : State :=
  let start := s.branch (t.source.getD s.input)
  let after := runScript cs { start with errors := [] }
  let s := s.join { after with errors := s.errors }
  (s.write (t.sink 1) after.output).write (t.sink 2) after.errors

/-- Runs a command. Variables that are set in front of a utility are its own. Without a utility the
status is that of the last script in the words. -/
def runCommand (c : Command) (s : State) : State :=
  let (found, s) := expandWords runScript { s with wordStatus := 0 } c.words
  match runRedirects runScript c.redirects s {} with
  | (s, none) => s
  | (s, some t) =>
    match c.script, found with
    | some cs, _ => runEnclosed runScript cs t s
    | none, [] =>
      let s := runAssignments runScript s c.assignments
      { s with status := s.wordStatus }
    | none, name :: arguments => s.call t name arguments

/-- Runs the commands of a pipeline, each on a copy of the state, and answers with what the last one
prints. -/
def runStages : List Command → List UInt8 → State → List UInt8 × State
  | [], input, s => (input, s)
  | c :: rest, input, s =>
    let after := runCommand runScript c (s.branch input)
    runStages rest after.output (s.join after)

/-- Runs a pipeline. -/
def runPipeline (commands : List Command) (s : State) : State :=
  match commands with
  | [c] => runCommand runScript c s
  | _ =>
    let (output, s) := runStages runScript commands s.input s
    s.write .output output

/-- Whether a pipeline is run. -/
def State.allows (s : State) : Joint → Bool
  | .always => true
  | .onSuccess => s.status = 0
  | .onFailure => s.status ≠ 0

/-- Runs pipelines one after another until the script ends. -/
def runPipelines (pipelines : List Pipeline) (s : State) : State :=
  pipelines.foldl (fun s p =>
    if s.ending.isNone && s.allows p.joint then runPipeline runScript p.commands s else s) s

end Commands

/-- Runs a script whose words hold scripts up to the given depth. A script that cannot be read ends
at once. -/
def runScript : Nat → List Char → State → State
  | 0, _, s => s
  | depth + 1, cs, s =>
    match script cs with
    | .ok pipelines => runPipelines (runScript depth) pipelines s
    | .error fault =>
      { s.complain {} [scriptComplaint s.name fault.message] with ending := some (.exited 2) }

/-- What a script leaves behind. -/
structure Result where
  output : List UInt8
  /-- What it printed about things that are wrong. -/
  errors : List UInt8
  ending : Ending
  deriving Repr, DecidableEq, Inhabited

/-- A shell: what a script leaves behind that is started in the given state. -/
abbrev Runner := String → State → Result

/-- Runs a script. A script within a script is shorter, so its length bounds how deep they are. -/
def run (text : String) (s : State) : Result :=
  let after := runScript (text.length + 1) text.toList s
  { output := after.output
    errors := after.errors
    ending := after.ending.getD (.exited after.status) }

end Picklist.Shell
