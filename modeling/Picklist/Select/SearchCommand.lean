import Picklist.Listing
import Picklist.Select.Exchange
import Picklist.Surroundings

/-!
# Searching by a command

A command line of the user's finds the choices for a query. It gets the query as its last argument
and in a variable, and prints a list of choices. Which shell runs it is up to the surroundings.
-/

set_option autoImplicit false

namespace Picklist.Select

/-- A command line that searches. -/
abbrev SearchCommand := String

/-- Why a command found no choices. -/
inductive CommandFailure where
  /-- It cannot be run because of a zero character in it or in the query. -/
  | unfit (command : SearchCommand)
  /-- It ended badly; the first line of what it said about it comes along. -/
  | ended (command : SearchCommand) (ending : Shell.Ending) (detail : String)
  /-- What it printed is no list of choices. -/
  | listing (error : Listing.ListingError)
  deriving Repr, DecidableEq, Inhabited

namespace CommandFailure

/-- A command between back quotes. -/
def quotedCommand (command : SearchCommand) : String := "\x60" ++ command ++ "\x60"

/-- What is wrong, in words. -/
def message : CommandFailure → String
  | .unfit command =>
    "failed to run " ++ quotedCommand command ++ ": nul byte found in provided data"
  | .ended command ending detail =>
    quotedCommand command ++ " exited with " ++ ending.describe ++ ": " ++ detail
  | .listing error => error.message

/-- The failure as an answer of a search provider. -/
def toSearchError (f : CommandFailure) : SearchError := .rejected f.message

end CommandFailure

namespace SearchCommand

/-- The variable that holds the query. -/
def queryVariable : String := "LISTKIT_QUERY"

/-- The name by which the script knows itself. -/
def scriptName : String := "listkit"

/-- The script that runs a command with the query as its last argument. -/
def script (command : SearchCommand) : String := command ++ " \x22$@\x22"

/-- The state that the script starts with. -/
def start (s : Surroundings) (query : String) : Shell.State where
  name := scriptName
  arguments := [query.toList]
  bindings := (queryVariable, query.toList) ::
    s.environment.map fun (name, value) => (name, value.toList)
  fileAt := s.fileAt

/-- Whether a character cannot be part of a plain word of a script. -/
def isDelimiter (c : Char) : Bool := Shell.isBreak c || c == '\x27' || c == '\x22' || c == '\x60'

/-- The plain words of a command, among which are the files that it names. -/
def plainWords (command : SearchCommand) : List Path :=
  ((command.toList.splitOnP isDelimiter).map String.ofList).filter fun word => !word.isEmpty

/-- The first line of a text, or nothing. -/
def firstLine (text : String) : String :=
  String.ofList ((Text.lines text.toList).headD [])

/-- What a script that has ended found. -/
def found (command : SearchCommand) (r : Shell.Result) : Except CommandFailure (List Choice) :=
  if r.ending.isSuccess then
    (Listing.parse command (Unicode.decodeLossy r.output)).mapError .listing
  else .error (.ended command r.ending (firstLine (Unicode.decodeLossy r.errors)))

/-- Whether a text has no zero character in it. -/
def isFit (text : String) : Bool := !text.toList.contains '\x00'

/-- Searches by a command. -/
def search (s : Surroundings) (command : SearchCommand) (query : String) :
    Except CommandFailure (List Choice) :=
  if isFit command && isFit query then
    found command (s.shell (script command) (start s query))
  else .error (.unfit command)

end SearchCommand

end Picklist.Select
