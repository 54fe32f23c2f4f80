import Picklist.Arrange.Config
import Picklist.Select.Config
import Picklist.Settings.Section
import Picklist.Theme.BuiltIn

/-!
# Effective settings

The settings that are in force, with defaults for what no source says, and their summary.
-/

set_option autoImplicit false

namespace Picklist.Settings

/-- The settings that are in force. -/
structure Effective where
  select : Select.Config
  arrange : Arrange.Config
  searchCommand : Option String
  /-- The name by which the theme was asked for. -/
  themeName : Option String
  theme : Theme
  title : Option String
  prompt : Option String
  initialQuery : String
  deriving Repr, DecidableEq, Inhabited

/-- Why there are no settings. -/
inductive SettingsError where
  | unreadable
  /-- A setting has a value of the wrong kind. -/
  | wrongKind
  | unknownOrientation (name : String)
  | unknownTheme (name : String)
  deriving Repr, DecidableEq, Inhabited

namespace SettingsError

/-- What is wrong, in words. -/
def message : SettingsError → String
  | .unreadable => "failed to load configuration"
  | .wrongKind => "failed to deserialize configuration"
  | .unknownOrientation name => "unknown orientation '" ++ name ++ "'"
  | .unknownTheme name =>
    "unknown theme '" ++ name ++ "' (available: " ++ ", ".intercalate Theme.names ++ ")"

end SettingsError

/-- Reads an axis; the case of letters and blank space around the name do not count. -/
def readOrientation (text : String) : Except SettingsError Arrange.Orientation :=
  let name := asciiLower (Unicode.trimString text)
  match Arrange.Orientation.ofName? name with
  | some o => .ok o
  | none => .error (.unknownOrientation name)

/-- A text without blank space around it, if anything is left. -/
def nonBlank? (text : Option String) : Option String :=
  (text.map Unicode.trimString).filter fun s => !s.isEmpty

/-- The theme with the given name, or the default. -/
def themeOf : Option String → Except SettingsError Theme
  | none => .ok Theme.defaultTheme
  | some name =>
    match Theme.byName? name with
    | some theme => .ok theme
    | none => .error (.unknownTheme name)

namespace SelectSection

/-- The settings of select lists, with defaults. -/
def toConfig (s : SelectSection) : Select.Config :=
  let defaults : Select.Config := {}
  { multiple := s.multiple.getD defaults.multiple
    excludeSelected := s.excludeSelected.getD defaults.excludeSelected
    hideBeforeSearch := s.hideBeforeSearch.getD defaults.hideBeforeSearch
    maxResults := s.maxResults <|> defaults.maxResults
    searchDebounce := s.searchDebounce.getD defaults.searchDebounce
    ignoreDiacritics := s.ignoreDiacritics.getD defaults.ignoreDiacritics
    autoHighlight := s.autoHighlight.getD defaults.autoHighlight }

end SelectSection

namespace ArrangeSection

/-- The settings of arranged lists, with defaults. -/
def toConfig (s : ArrangeSection) : Except SettingsError Arrange.Config := do
  let defaults : Arrange.Config := {}
  let orientation ← match s.orientation with
    | some text => readOrientation text
    | none => .ok defaults.orientation
  .ok {
    orientation := orientation
    dragThrottle := s.dragThrottle.getD defaults.dragThrottle
    settleDelay := s.settleDelay.getD defaults.settleDelay }

end ArrangeSection

/-- The settings that the sections amount to. -/
def Sections.resolve (s : Sections) : Except SettingsError Effective := do
  let arrange ← s.arrange.toConfig
  let themeName := nonBlank? s.display.theme
  let theme ← themeOf themeName
  .ok {
    select := s.select.toConfig
    arrange := arrange
    searchCommand := nonBlank? s.select.searchCommand
    themeName := themeName
    theme := theme
    title := s.display.title
    prompt := s.display.prompt
    initialQuery := s.display.initialQuery.getD "" }

/-! ## Summary -/

/-- A truth value as a word. -/
def yesOrNo (b : Bool) : String := if b then "yes" else "no"

/-- A line of the summary. -/
def summaryLine (name value : String) : String := "  " ++ name ++ ": " ++ value

namespace Effective

/-- The lines of the summary. -/
def summaryLines (e : Effective) : List String :=
  ["Effective configuration:",
    summaryLine "Multiple" (yesOrNo e.select.multiple),
    summaryLine "Exclude selected" (yesOrNo e.select.excludeSelected),
    summaryLine "Hide before search" (yesOrNo e.select.hideBeforeSearch),
    summaryLine "Max results" ((e.select.resultLimit.map toString).getD "unlimited"),
    summaryLine "Search debounce" (toString e.select.searchDebounce ++ "ms"),
    summaryLine "Ignore diacritics" (yesOrNo e.select.ignoreDiacritics),
    summaryLine "Auto highlight" (yesOrNo e.select.autoHighlight)]
  ++ (e.searchCommand.map (summaryLine "Search command")).toList
  ++ [summaryLine "Orientation" e.arrange.orientation.name,
    summaryLine "Drag throttle" (toString e.arrange.dragThrottle ++ "ms"),
    summaryLine "Settle delay" (toString e.arrange.settleDelay ++ "ms"),
    summaryLine "UI theme" (e.themeName.getD "(use the library default)")]
  ++ (e.title.map (summaryLine "Title")).toList
  ++ (e.prompt.map (summaryLine "Prompt")).toList
  ++ (if e.initialQuery.isEmpty then [] else [summaryLine "Initial query" e.initialQuery])

/-- The summary of the settings. -/
def summary (e : Effective) : String :=
  String.join (e.summaryLines.map (· ++ "\n"))

end Effective

end Picklist.Settings
