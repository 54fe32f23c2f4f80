/-!
# Command line options

Which options there are, which of them take a value, and at which level of the command line they may
be given: in front of the command, behind it, or both.
-/

set_option autoImplicit false

namespace Picklist.CommandLine

/-- The options. -/
inductive OptionName where
  | config
  /-- Leaves the usual files with settings out. -/
  | noConfig
  | output
  | theme
  | printConfig
  | listThemes
  | help
  | version
  | input
  | multiple
  | excludeSelected
  /-- Nothing is listed for an empty query. -/
  | hideBeforeSearch
  /-- How many choices are listed at most. -/
  | maxResults
  /-- How long a query must stay unchanged. -/
  | debounce
  | ignoreDiacritics
  | autoHighlight
  | searchCommand
  | query
  | title
  /-- Lays the items out side by side. -/
  | horizontal
  /-- Pins an item to its place. -/
  | pinned
  deriving Repr, DecidableEq, Inhabited

/-- What an option is followed by. -/
inductive ValueKind where
  | none
  | text
  /-- A path, which is not empty. -/
  | path
  /-- A natural number of 64 bits. -/
  | natural
  /-- The name of a form of results. -/
  | format
  deriving Repr, DecidableEq, Inhabited

/-- The commands. -/
inductive CommandName where
  | pick
  | sort
  /-- Prints the choices that a query lists. -/
  | filter
  deriving Repr, DecidableEq, Inhabited

namespace CommandName

/-- The command with the given name. -/
def ofText? : String → Option CommandName
  | "pick" => some .pick
  | "sort" => some .sort
  | "filter" => some .filter
  | _ => none

end CommandName

/-- Where on the command line an option stands: in front of the command, or behind it. -/
inductive Level where
  | front
  | behind (command : CommandName)
  deriving Repr, DecidableEq, Inhabited

namespace OptionName

/-- The letter of an option. -/
def letter? : OptionName → Option Char
  | .config => some 'c'
  | .noConfig => some 'n'
  | .output => some 'o'
  | .help => some 'h'
  | .version => some 'V'
  | .input => some 'i'
  | .multiple => some 'm'
  | .query => some 'q'
  | .title => some 't'
  | .pinned => some 'p'
  | _ => none

/-- The name of an option. -/
def long : OptionName → String
  | .config => "config"
  | .noConfig => "no-config"
  | .output => "output"
  | .theme => "theme"
  | .printConfig => "print-config"
  | .listThemes => "list-themes"
  | .help => "help"
  | .version => "version"
  | .input => "input"
  | .multiple => "multiple"
  | .excludeSelected => "exclude-selected"
  | .hideBeforeSearch => "hide-before-search"
  | .maxResults => "max-results"
  | .debounce => "debounce-ms"
  | .ignoreDiacritics => "ignore-diacritics"
  | .autoHighlight => "auto-highlight"
  | .searchCommand => "search-cmd"
  | .query => "query"
  | .title => "title"
  | .horizontal => "horizontal"
  | .pinned => "pinned"

/-- What the option is followed by. -/
def valueKind : OptionName → ValueKind
  | .config => .path
  | .input => .path
  | .output => .format
  | .theme => .text
  | .searchCommand => .text
  | .query => .text
  | .title => .text
  | .pinned => .text
  | .maxResults => .natural
  | .debounce => .natural
  | _ => .none

/-- Whether the option may be given several times at one level. -/
def repeats : OptionName → Bool
  | .config => true
  | .pinned => true
  | _ => false

end OptionName

/-- The options that may be given at both levels. -/
def sharedOptions : List OptionName := [.config, .noConfig, .output, .theme, .printConfig]

/-- The options of a select list. -/
def selectOptions : List OptionName :=
  [.input, .multiple, .excludeSelected, .hideBeforeSearch, .maxResults, .debounce,
    .ignoreDiacritics, .autoHighlight, .searchCommand, .query]

/-- The options of a level. -/
def Level.options : Level → List OptionName
  | .front => sharedOptions ++ [.listThemes, .help, .version]
  | .behind .pick => sharedOptions ++ .help :: .title :: selectOptions
  | .behind .filter => sharedOptions ++ .help :: selectOptions
  | .behind .sort => sharedOptions ++ [.help, .input, .horizontal, .pinned, .title]

/-- The option of a level with the given letter. -/
def Level.withLetter? (level : Level) (letter : Char) : Option OptionName :=
  level.options.find? (·.letter? == some letter)

/-- The option of a level with the given name. -/
def Level.withName? (level : Level) (name : String) : Option OptionName :=
  level.options.find? (·.long == name)

end Picklist.CommandLine
