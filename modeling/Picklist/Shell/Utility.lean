import Picklist.Path
import Picklist.Shell.Printf

/-!
# Utilities

The commands that a script can call. Each of them is a function from its arguments and what it reads
to what it prints and the status it ends with; some end the script itself.
-/

set_option autoImplicit false

namespace Picklist.Shell

/-- How a script ends. -/
inductive Ending where
  | exited (status : Nat)
  | killed (signal : Nat)
  deriving Repr, DecidableEq, Inhabited

/-- The signals that end a script, by number. -/
def signals : List (Nat × String) :=
  [(1, "HUP"), (2, "INT"), (3, "QUIT"), (4, "ILL"), (5, "TRAP"), (6, "ABRT"), (7, "BUS"),
    (8, "FPE"), (9, "KILL"), (10, "USR1"), (11, "SEGV"), (12, "USR2"), (13, "PIPE"), (14, "ALRM"),
    (15, "TERM"), (16, "STKFLT"), (24, "XCPU"), (25, "XFSZ"), (26, "VTALRM"), (27, "PROF"),
    (29, "IO"), (30, "PWR"), (31, "SYS")]

/-- The signal that is sent when none is named. -/
def usualSignal : Nat := 15

namespace Ending

/-- Whether a script ends well. -/
def isSuccess (e : Ending) : Bool := e == .exited 0

/-- Whether a signal ends a script. -/
def isKill : Ending → Bool
  | .killed _ => true
  | .exited _ => false

/-- The status that other commands see. -/
def status : Ending → Nat
  | .exited status => status
  | .killed signal => 128 + signal

/-- How a script ends, in words. -/
def describe : Ending → String
  | .exited status => "exit status: " ++ toString status
  | .killed signal =>
    let name := (signals.lookup signal).map fun name => " (SIG" ++ name ++ ")"
    "signal: " ++ toString signal ++ name.getD ""

end Ending

/-- What a utility is called with. -/
structure Call where
  script : String
  name : String
  arguments : List (List Char) := []
  input : List UInt8 := []
  fileAt : Path → Option (List UInt8) := fun _ => none
  /-- The status of the command before. -/
  lastStatus : Nat := 0

/-- What a utility does. -/
structure Effect where
  output : List UInt8 := []
  /-- The lines in which it, or the script for it, says what is wrong. -/
  complaints : List String := []
  /-- What is left of what it can read. -/
  input : List UInt8
  status : Nat := 0
  /-- How it ends the script, if it does. -/
  ending : Option Ending := none
  deriving Repr, DecidableEq, Inhabited

/-- A line in which a script says what is wrong. Scripts count as being on their first line. -/
def scriptComplaint (script text : String) : String := script ++ ": 1: " ++ text

namespace Call

/-- A line in which the script says what is wrong with the call. -/
def complaint (c : Call) (text : String) : String :=
  scriptComplaint c.script (c.name ++ ": " ++ text)

/-- A utility that prints something and succeeds. -/
def printing (c : Call) (output : List UInt8) : Effect := { input := c.input, output := output }

/-- A utility that only has a status. -/
def ending (c : Call) (status : Nat) : Effect := { input := c.input, status := status }

/-- A utility for which the script complains. -/
def complaining (c : Call) (text : String) (status : Nat) : Effect where
  input := c.input
  complaints := [c.complaint text]
  status := status

end Call

/-- The number that is spelled by decimal digits and nothing else. -/
def plainNumber? (cs : List Char) : Option Nat :=
  if !cs.isEmpty && cs.all Char.isDigit then some (digitsValue 10 cs) else none

/-! ## Printing -/

/-- Arguments with blanks between them and something behind them, with escapes replaced. -/
def echoed (behind : List UInt8) : List (List Char) → List UInt8
  | [] => behind
  | a :: rest =>
    let (bytes, ended) := unescaped a
    if ended then bytes
    else bytes ++ (if rest.isEmpty then behind else Unicode.encode [' '] ++ echoed behind rest)

/-- Prints its arguments. -/
def echo (c : Call) : Effect :=
  match c.arguments with
  | ['-', 'n'] :: rest => c.printing (echoed [] rest)
  | arguments => c.printing (echoed (Unicode.encode ['\n']) arguments)

/-- The arguments of a utility without options, or the letter of the option that is given. -/
def withoutOptions : List (List Char) → Except Char (List (List Char))
  | ['-', '-'] :: rest => .ok rest
  | ('-' :: letter :: _) :: _ => .error letter
  | arguments => .ok arguments

/-- What is said about an option that does not exist. -/
def illegalOption (letter : Char) : String := "Illegal option -" ++ letter.toString

/-- Prints its arguments by a format. -/
def formatted (c : Call) : Effect :=
  match withoutOptions c.arguments with
  | .error letter => c.complaining (illegalOption letter) 2
  | .ok [] => c.complaining "usage: printf format [arg ...]" 2
  | .ok (format :: arguments) =>
    let p := printf format arguments
    { input := c.input
      output := p.output
      complaints := (p.complaints ++ p.fault.toList).map c.complaint
      status := if p.fault.isSome then 2 else if p.complaints.isEmpty then 0 else 1 }

/-! ## Files -/

/-- Whether a character has a meaning in scripts. -/
def isSpecial (c : Char) : Bool := " !\x22#$&()*;<=>?[\\^\x60|~\x27\n\t".toList.contains c

/-- The name of a file, in single quotes if it is empty or has characters with a meaning in scripts.
A single quote within them stands outside the quotes. -/
def quotedName (name : List Char) : List Char :=
  if name.isEmpty || name.any isSpecial then
    let quoted := name.flatMap fun c => if c = '\x27' then ['\x27', '\\', '\x27', '\x27'] else [c]
    '\x27' :: quoted ++ ['\x27']
  else name

/-- Prints files one after another; a dash is what the utility can read. -/
def catenate (c : Call) (e : Effect) (file : List Char) : Effect :=
  if file = ['-'] then { e with output := e.output ++ e.input, input := [] }
  else
    match c.fileAt (String.ofList file) with
    | some bytes => { e with output := e.output ++ bytes }
    | none =>
      let name := String.ofList (quotedName file)
      let complaint := c.name ++ ": " ++ name ++ ": No such file or directory"
      { e with complaints := e.complaints ++ [complaint], status := 1 }

/-- Prints the files it is given, or else what it can read. -/
def cat (c : Call) : Effect :=
  match withoutOptions c.arguments with
  | .error letter =>
    let complaint := c.name ++ ": invalid option -- \x27" ++ letter.toString ++ "\x27"
    { c.ending 1 with complaints := [complaint] }
  | .ok files => (if files.isEmpty then [['-']] else files).foldl (catenate c) (c.ending 0)

/-! ## Conditions -/

/-- The comparison of numbers that an operator stands for. -/
def comparison? (operator : List Char) : Option (Nat → Nat → Bool) :=
  match String.ofList operator with
  | "-eq" => some fun a b => a == b
  | "-ne" => some fun a b => a != b
  | "-lt" => some fun a b => decide (a < b)
  | "-le" => some fun a b => decide (a ≤ b)
  | "-gt" => some fun a b => decide (b < a)
  | "-ge" => some fun a b => decide (b ≤ a)
  | _ => none

/-- Decides a condition with one operand. -/
def decideOne? (c : Call) (operator operand : List Char) : Option Bool :=
  match String.ofList operator with
  | "!" => some operand.isEmpty
  | "-n" => some (!operand.isEmpty)
  | "-z" => some operand.isEmpty
  | "-e" => some (c.fileAt (String.ofList operand)).isSome
  | "-f" => some (c.fileAt (String.ofList operand)).isSome
  | "-r" => some (c.fileAt (String.ofList operand)).isSome
  | "-s" => some ((c.fileAt (String.ofList operand)).any (!·.isEmpty))
  | _ => none

/-- The number that an operand spells. -/
def operandNumber (cs : List Char) : Except String Nat :=
  match plainNumber? cs with
  | some n => .ok n
  | none => .error ("Illegal number: " ++ String.ofList cs)

/-- What is said about a condition that cannot be decided. -/
def unexpectedOperator (operand : List Char) : String :=
  String.ofList operand ++ ": unexpected operator"

/-- Decides a condition with two operands. -/
def decideTwo (a operator b : List Char) : Except String Bool :=
  match String.ofList operator, comparison? operator with
  | "=", _ => .ok (a == b)
  | "!=", _ => .ok (a != b)
  | _, some compare => do
    let m ← operandNumber a
    let n ← operandNumber b
    .ok (compare m n)
  | _, none => .error (unexpectedOperator a)

/-- Decides a condition. -/
def condition (c : Call) : List (List Char) → Except String Bool
  | [] => .ok false
  | [a] => .ok (!a.isEmpty)
  | [operator, a] =>
    match decideOne? c operator a with
    | some decision => .ok decision
    | none => .error (unexpectedOperator operator)
  | [['!'], operator, a] => do
    let decision ← condition c [operator, a]
    .ok (!decision)
  | [a, operator, b] => decideTwo a operator b
  | ['!'] :: rest => do
    let decision ← condition c rest
    .ok (!decision)
  | a :: _ => .error (unexpectedOperator a)

/-- Succeeds if a condition holds. -/
def test (c : Call) : Effect :=
  match condition c c.arguments with
  | .ok decision => c.ending (if decision then 0 else 1)
  | .error text => c.complaining text 2

/-- Succeeds if the condition in brackets holds. -/
def bracket (c : Call) : Effect :=
  if c.arguments.getLast? = some [']'] then test { c with arguments := c.arguments.dropLast }
  else c.complaining "missing ]" 2

/-! ## Ending the script -/

/-- Ends the script. -/
def leave (c : Call) : Effect :=
  let leaving (status : Nat) : Effect :=
    { input := c.input, status := status, ending := some (.exited (status % 256)) }
  match c.arguments with
  | [] => leaving c.lastStatus
  | a :: _ =>
    match plainNumber? a with
    | some status => leaving status
    | none =>
      { c.complaining ("Illegal number: " ++ String.ofList a) 2 with ending := some (.exited 2) }

/-- The number by which a script knows itself. -/
def processNumber : Nat := 1024

/-- The signal with the given number or name. -/
def signal? (cs : List Char) : Option Nat :=
  match plainNumber? cs with
  | some n => some n
  | none => (signals.find? fun (_, name) => name.toList == cs.map Char.toUpper).map Prod.fst

/-- The signal to send, and whom it is sent to. -/
def signalAndTargets (arguments : List (List Char)) : Except String (Nat × List (List Char)) :=
  match arguments with
  | ['-', 's'] :: name :: targets =>
    match signal? name with
    | some signal => .ok (signal, targets)
    | none => .error ("invalid signal number or name: " ++ String.ofList name)
  | ['-', '-'] :: targets => .ok (usualSignal, targets)
  | ('-' :: name) :: targets =>
    match signal? name with
    | some signal => .ok (signal, targets)
    | none => .error ("Illegal option -" ++ String.ofList (name.take 1))
  | targets => .ok (usualSignal, targets)

/-- How signals are sent. -/
def killUsage : String :=
  "Usage: kill [-s sigspec | -signum | -sigspec] [pid | job]... or\n" ++ "kill -l [exitstatus]"

/-- Sends a signal to the script. There is no other process that it could be sent to. -/
def kill (c : Call) : Effect :=
  match signalAndTargets c.arguments with
  | .error text => c.complaining text 2
  | .ok (_, []) => c.complaining killUsage 2
  | .ok (signal, target :: _) =>
    match plainNumber? target with
    | none => c.complaining ("Illegal number: " ++ String.ofList target) 2
    | some n =>
      if n = processNumber then
        let ending := if (signals.lookup signal).isSome then some (Ending.killed signal) else none
        { c.ending 0 with ending := ending }
      else c.complaining "No such process" 1

/-! ## Finding utilities -/

/-- The utility with the given name. -/
def utility? : String → Option (Call → Effect)
  | "echo" => some echo
  | "printf" => some formatted
  | "cat" => some cat
  | "true" => some fun c => c.ending 0
  | ":" => some fun c => c.ending 0
  | "false" => some fun c => c.ending 1
  | "sleep" => some fun c => c.ending 0
  | "test" => some test
  | "[" => some bracket
  | "exit" => some leave
  | "kill" => some kill
  | _ => none

end Picklist.Shell
