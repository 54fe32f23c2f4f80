import Picklist.CommandLine.Arguments
import Picklist.Report
import Picklist.Select.Batch
import Picklist.Select.SearchCommand
import Picklist.Settings.Load

/-!
# A run of the program

Loads the settings, tells them if that is asked for, and carries out the command. Filtering needs no
terminal. Picking and sorting do; without one they go no further than to read their choices.
-/

set_option autoImplicit false

namespace Picklist

open CommandLine (Arguments Command)

/-- The sessions at a terminal. -/
inductive SessionKind where
  | picker
  | sorter
  deriving Repr, DecidableEq, Inhabited

/-- The name of a session. -/
def SessionKind.name : SessionKind → String
  | .picker => "picker"
  | .sorter => "sorter"

/-- Why a run fails. -/
inductive RunError where
  | settings (error : Settings.SettingsError)
  | choices (error : Listing.ListingError)
  /-- There is no terminal for a session. -/
  | noTerminal (session : SessionKind)
  deriving Repr, DecidableEq, Inhabited

namespace RunError

/-- What is wrong, in words. -/
def message : RunError → String
  | .settings error => error.message
  | .choices error => error.message
  | .noTerminal session => session.name ++ " session failed"

end RunError

/-- The path that stands for the standard input. -/
def inputPath : Path := "-"

/-- Whether a path stands for the standard input. -/
def isInputPath (path : Path) : Bool := Path.parts path == Path.parts inputPath

/-- Reads choices from a file or from the standard input. -/
def readChoices (s : Surroundings) (path : Path) : Except Listing.ListingError (List Choice) :=
  let origin := if isInputPath path then "stdin" else path
  let bytes := if isInputPath path then some s.input else s.fileAt path
  match bytes.bind Unicode.decode? with
  | some text => Listing.parse origin text
  | none => .error (.unreadable origin)

/-- Where a command reads its choices from. -/
def sourceOf : Command → Path
  | .filter a => a.input
  | .pick a _ => a.input
  | .sort a => a.input

/-- Carries out a command, and answers with its report. What a search command finds for a query is
up to `search`. -/
def runCommand {ε : Type} (search : Select.SearchCommand → String → Except ε (List Choice))
    (s : Surroundings) (format : OutputFormat) (settings : Settings.Effective) :
    Command → Except RunError String
  | .filter a => do
    let choices ← (readChoices s a.input).mapError .choices
    let find := settings.searchCommand.map search
    let query := settings.initialQuery
    .ok (Report.filtered format query (Select.batchFilter find settings.select query choices))
  | .pick a _ => do
    let _ ← (readChoices s a.input).mapError .choices
    .error (.noTerminal .picker)
  | .sort a => do
    let _ ← (readChoices s a.input).mapError .choices
    .error (.noTerminal .sorter)

/-- What a run prints, and whether it succeeds. -/
structure RunResult where
  printed : String := ""
  /-- Why the run fails, if it does. -/
  error : Option RunError := none
  deriving Repr, DecidableEq, Inhabited

/-- A run of the program. What is printed before an error stays printed. -/
def run (s : Surroundings) (a : Arguments) : RunResult :=
  match Settings.load s a with
  | .error e => { error := some (.settings e) }
  | .ok settings =>
    let summary := if a.printConfig then settings.summary else ""
    let search := Select.SearchCommand.search s
    match a.command.map (runCommand search s a.output settings) with
    | none => { printed := summary }
    | some (.ok report) => { printed := summary ++ report }
    | some (.error e) => { printed := summary, error := some e }

end Picklist
