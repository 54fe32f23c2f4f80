import Picklist.CommandLine.Scan
import Picklist.Path

/-!
# Arguments

What the command line asks for. Options that may be given at both levels count behind the command
first, then in front of it. A variable of the environment names a file with settings where no option
does.
-/

set_option autoImplicit false

namespace Picklist.CommandLine

/-- What is asked of a select list. -/
structure SelectArguments where
  input : Path := "-"
  multiple : Bool := false
  excludeSelected : Bool := false
  /-- Nothing is listed for an empty query. -/
  hideBeforeSearch : Bool := false
  /-- How many choices are listed at most. -/
  maxResults : Option Nat := none
  /-- How long a query must stay unchanged, in milliseconds. -/
  debounce : Option Nat := none
  ignoreDiacritics : Bool := false
  autoHighlight : Bool := false
  searchCommand : Option String := none
  query : Option String := none
  deriving Repr, DecidableEq, Inhabited

/-- What is asked of an arranged list. -/
structure SortArguments where
  input : Path := "-"
  /-- Lays the items out side by side. -/
  horizontal : Bool := false
  /-- The labels of items that are pinned to their place. -/
  pinned : List String := []
  title : Option String := none
  deriving Repr, DecidableEq, Inhabited

/-- A command with its options. -/
inductive Command where
  | pick (select : SelectArguments) (title : Option String)
  /-- Prints the choices that a query lists. -/
  | filter (select : SelectArguments)
  | sort (arguments : SortArguments)
  deriving Repr, DecidableEq, Inhabited

/-- What a command line asks for. -/
structure Arguments where
  config : List Path := []
  /-- Leaves the usual files with settings out. -/
  noConfig : Bool := false
  output : OutputFormat := .plain
  theme : Option String := none
  printConfig : Bool := false
  listThemes : Bool := false
  command : Option Command := none
  deriving Repr, DecidableEq, Inhabited

/-- The number that an option asks for. -/
def Given.nat? (given : Given) (name : OptionName) : Option Nat :=
  (given.value? name).bind fun text => naturalUpTo? 10 largestWord text.toList

/-- The options of a select list. -/
def selectArguments (given : Given) : SelectArguments where
  input := (given.value? .input).getD "-"
  multiple := given.has .multiple
  excludeSelected := given.has .excludeSelected
  hideBeforeSearch := given.has .hideBeforeSearch
  maxResults := given.nat? .maxResults
  debounce := given.nat? .debounce
  ignoreDiacritics := given.has .ignoreDiacritics
  autoHighlight := given.has .autoHighlight
  searchCommand := given.value? .searchCommand
  query := given.value? .query

/-- A command with the options behind it. -/
def commandOf (given : Given) : CommandName → Command
  | .pick => .pick (selectArguments given) (given.value? .title)
  | .filter => .filter (selectArguments given)
  | .sort => .sort {
      input := (given.value? .input).getD "-"
      horizontal := given.has .horizontal
      pinned := given.values .pinned
      title := given.value? .title }

/-- The level that an option counts from: behind the command, if it is given there. -/
def countingLevel (front behind : Given) (name : OptionName) : Given :=
  if behind.has name then behind else front

/-- The arguments that the options of both levels, the command and the file of the environment make
up. -/
def argumentsOf (front behind : Given) (command : Option CommandName)
    (environmentFile : Option Path) : Arguments :=
  let counting := countingLevel front behind
  let files := (counting .config).values .config
  { config := if files.isEmpty then environmentFile.toList else files
    noConfig := (counting .noConfig).has .noConfig
    output := (((counting .output).value? .output).bind OutputFormat.ofName?).getD .plain
    theme := (counting .theme).value? .theme
    printConfig := (counting .printConfig).has .printConfig
    listThemes := front.has .listThemes
    command := command.map (commandOf behind) }

/-- Checks the file of the environment, at a level where no option names one. -/
def checkEnvironmentFile (given : Given) (environmentFile : Option Path) : Except UsageError Unit :=
  match environmentFile with
  | some path => if given.has .config then .ok () else checkValue .path path
  | none => .ok ()

/-- Reads all words of a level. -/
def level (l : Level) (words : List String) (environmentFile : Option Path) :
    Except UsageError Given := do
  let (s, _) ← scanWords l {} words
  let s ← s.settle
  checkEnvironmentFile s.given environmentFile
  .ok s.given

/-- Reads a command line. The file with settings that the environment names comes with it. -/
def parse (words : List String) (environmentFile : Option Path) : Except UsageError Arguments := do
  let (s, rest) ← scanWords .front {} words
  let (command, behind) ←
    match rest with
    | none => .ok (none, [])
    | some (command, words) => do
      let given ← level (.behind command) words environmentFile
      .ok (some command, given)
  let s ← s.settle
  checkEnvironmentFile s.given environmentFile
  .ok (argumentsOf s.given behind command environmentFile)

end Picklist.CommandLine
