import Picklist.Proofs.CommandLine.Attached
import Picklist.Proofs.Settings.Variables
import Picklist.Settings.Load

/-!
# Settings that are texts

The title, the prompt and the query at the start are texts. Whoever writes one into a file or behind
an equals sign on the command line gets this very text. A variable of the environment gives the text
as well, unless it spells a truth value or a number: then the setting is what the program itself
writes for that value.
-/

set_option autoImplicit false

namespace Picklist.Settings

open CommandLine (Arguments OptionName attachedWord bind_eq_ok)

/-! ## The settings -/

/-- The settings on display that are texts. -/
inductive TextSetting where
  | title
  | prompt
  | initialQuery

namespace TextSetting

/-- The key of a setting in the group `ui`. -/
def key : TextSetting → String
  | .title => "title"
  | .prompt => "prompt"
  | .initialQuery => "initial_query"

/-- The variable that stands for a setting. -/
def variableName : TextSetting → String
  | .title => "LISTKIT__UI__TITLE"
  | .prompt => "LISTKIT__UI__PROMPT"
  | .initialQuery => "LISTKIT__UI__INITIAL_QUERY"

/-- The option that a setting has on the command line. -/
def option? : TextSetting → Option OptionName
  | .title => some .title
  | .prompt => none
  | .initialQuery => some .query

/-- What the command line says about a setting. -/
def given? (a : Arguments) : TextSetting → Option String
  | .title => match a.command with
    | some (.pick _ text) => text
    | some (.sort sort) => sort.title
    | _ => none
  | .prompt => none
  | .initialQuery => match a.command with
    | some (.pick select _) => select.query
    | some (.filter select) => select.query
    | _ => none

/-- What the sources say about a setting. -/
def shown? (d : DisplaySection) : TextSetting → Option String
  | .title => d.title
  | .prompt => d.prompt
  | .initialQuery => d.initialQuery

/-- The text that is in force; without any, the query at the start is empty. -/
def of (e : Effective) : TextSetting → Option String
  | .title => e.title
  | .prompt => e.prompt
  | .initialQuery => some e.initialQuery

end TextSetting

open TextSetting

/-! ## From the sources to what is in force -/

/-- What the command line says counts before what the sources say. -/
theorem shown?_withArguments (setting : TextSetting) (sections : Sections) (a : Arguments) :
    setting.shown? (sections.withArguments a).display =
      (setting.given? a <|> setting.shown? sections.display) := by
  rcases command : a.command with _ | ⟨select, text⟩ | select | sort <;> cases setting <;>
    simp [Sections.withArguments, Sections.withSelectArguments, Sections.withTitle, given?, shown?,
      command]

/-- The text that is shown is in force. -/
theorem of_resolve {setting : TextSetting} {sections : Sections} {e : Effective} {t : String}
    (resolved : sections.resolve = .ok e) (said : setting.shown? sections.display = some t) :
    setting.of e = some t := by
  obtain ⟨arrange, -, resolved⟩ := bind_eq_ok resolved
  obtain ⟨theme, -, resolved⟩ := bind_eq_ok resolved
  obtain rfl := Except.ok.inj resolved
  cases setting with
  | title => exact said
  | prompt => exact said
  | initialQuery =>
    have said' : sections.display.initialQuery = some t := said
    exact congrArg some (by rw [said', Option.getD_some])

/-- A setting is read where it has a value that is a text or can be written as one. -/
theorem optional_toText? {entries : Entries} {name : String} {v : Value} {t : String}
    (there : entries.lookup name = some v) (text : v.toText? = some t) :
    optional Value.toText? entries name = some (some t) := by
  rw [optional, there]
  cases v with
  | nothing => cases text
  | _ =>
    dsimp only
    rw [text, Option.map_some]

/-- The display section shows the text of a setting that it has. -/
theorem shown?_of_displaySection? {setting : TextSetting} {v w : Value} {d : DisplaySection}
    {t : String} (read : displaySection? v = some d)
    (there : v.entries.lookup setting.key = some w) (text : w.toText? = some t) :
    setting.shown? d = some t := by
  obtain ⟨entries, fields, read⟩ := Option.bind_eq_some_iff.mp read
  have same : entries = v.entries := by
    cases v with
    | table inner => exact (Option.some.inj fields).symm
    | _ => cases there
  rw [← same] at there
  obtain ⟨theme, -, read⟩ := Option.bind_eq_some_iff.mp read
  obtain ⟨title, readTitle, read⟩ := Option.bind_eq_some_iff.mp read
  obtain ⟨prompt, readPrompt, read⟩ := Option.bind_eq_some_iff.mp read
  obtain ⟨query, readQuery, read⟩ := Option.bind_eq_some_iff.mp read
  obtain rfl := Option.some.inj read
  have said := optional_toText? there text
  cases setting with
  | title => exact Option.some.inj (readTitle.symm.trans said)
  | prompt => exact Option.some.inj (readPrompt.symm.trans said)
  | initialQuery => exact Option.some.inj (readQuery.symm.trans said)

/-- The sections show the text of a setting that the merged table has. -/
theorem shown?_of_sections? {setting : TextSetting} {merged v : Value} {sections : Sections}
    {t : String} (read : sections? merged.entries = some sections)
    (there : settingAt? merged "ui" setting.key = some v) (text : v.toText? = some t) :
    setting.shown? sections.display = some t := by
  obtain ⟨ui, found, inside⟩ := Option.bind_eq_some_iff.mp there
  obtain ⟨select, -, read⟩ := Option.bind_eq_some_iff.mp read
  obtain ⟨arrange, -, read⟩ := Option.bind_eq_some_iff.mp read
  obtain ⟨display, readDisplay, read⟩ := Option.bind_eq_some_iff.mp read
  obtain rfl := Option.some.inj read
  rw [sectionOr, found] at readDisplay
  exact shown?_of_displaySection? readDisplay inside text

/-- What is in force comes from the sections of all entries, and from the command line. -/
theorem sections_of_load {s : Surroundings} {a : Arguments} {e : Effective}
    (loaded : load s a = .ok e) : ∃ all sections, sources s a = .ok all ∧
      sections? (mergeSource (.table []) all.flatten).entries = some sections ∧
      (sections.withArguments a).resolve = .ok e := by
  obtain ⟨all, said, loaded⟩ := bind_eq_ok loaded
  dsimp only at loaded
  rw [foldl_mergeSource_eq] at loaded
  split at loaded
  · rename_i sections read
    exact ⟨all, sections, said, read, loaded⟩
  · cases loaded

/-- The command line has the last word. -/
theorem of_load_of_given {setting : TextSetting} {s : Surroundings} {a : Arguments} {e : Effective}
    {t : String} (loaded : load s a = .ok e) (given : setting.given? a = some t) :
    setting.of e = some t := by
  obtain ⟨all, sections, -, -, resolved⟩ := sections_of_load loaded
  refine of_resolve resolved ?_
  rw [shown?_withArguments, given]
  rfl

/-- Without an option, the last entry of all sources that mentions the setting has the last word. -/
theorem of_load_of_last {setting : TextSetting} {s : Surroundings} {a : Arguments} {e : Effective}
    {all : List Entries} {before after : Entries} {entry : String × Value} {v : Value} {t : String}
    (loaded : load s a = .ok e) (said : sources s a = .ok all)
    (last : all.flatten = before ++ entry :: after) (gives : Gives "ui" setting.key v entry)
    (silent : ∀ later ∈ after, ¬ Mentions "ui" setting.key later) (plain : IsPlain v)
    (text : v.toText? = some t) (noOption : setting.given? a = none) : setting.of e = some t := by
  obtain ⟨all', sections, said', read, resolved⟩ := sections_of_load loaded
  obtain rfl := Except.ok.inj (said.symm.trans said')
  refine of_resolve resolved ?_
  rw [last] at read
  rw [shown?_withArguments, noOption,
    shown?_of_sections? read (settingAt?_mergeSource_of_last plain gives silent _) text]
  rfl

/-! ## The three ways to give a text -/

/-- The entries of a source say that a setting is a text. -/
def SaidIn (setting : TextSetting) (source : Entries) (t : String) : Prop :=
  ∃ before entry after, source = before ++ entry :: after ∧
    Gives "ui" setting.key (.string t) entry ∧ ∀ later ∈ after, ¬ Mentions "ui" setting.key later

/-- The entries of a source say nothing about a setting. -/
def Silent (setting : TextSetting) (source : Entries) : Prop :=
  ∀ entry ∈ source, ¬ Mentions "ui" setting.key entry

/-- A TOML file that the command line names gives the setting the text, and neither what is read
later nor the command line itself says anything about it. -/
def FromFile (setting : TextSetting) (t : String) (s : Surroundings) (a : Arguments) : Prop :=
  (∃ earlier path later bytes source, a.config = earlier ++ path :: later ∧
    findFile s path = some (some .toml, bytes) ∧ readEntries? .toml bytes = some source ∧
    SaidIn setting source t ∧
    ∀ other ∈ later, ∀ source, loadFile s true other = .ok source → Silent setting source) ∧
  Silent setting (ofVariables s.environment) ∧ setting.given? a = none

/-- The variable of the setting holds the text, no other variable stands for the setting or for
something below it, and the command line says nothing about it. -/
def FromVariable (setting : TextSetting) (t : String) (s : Surroundings) (a : Arguments) : Prop :=
  (setting.variableName, t) ∈ s.environment ∧
  (∀ entry ∈ s.environment, ∀ path, variableKey? entry.1 = some path →
    ["ui", setting.key] <+: keyPath path → entry = (setting.variableName, t)) ∧
  setting.given? a = none

/-- The command line has been read with the option of the setting and the text behind an equals
sign. -/
def FromOption (setting : TextSetting) (t : String) (a : Arguments) : Prop :=
  ∃ name words file, setting.option? = some name ∧ attachedWord name t ∈ words ∧
    CommandLine.parse words file = .ok a

/-- Where results are found for all entries there is one for each. -/
theorem mapM_append_cons_eq_ok {ε α β : Type} {f : α → Except ε β} {xs ys : List α} {x : α}
    {results : List β} (done : (xs ++ x :: ys).mapM f = .ok results) :
    ∃ before y after, results = before ++ y :: after ∧ f x = .ok y ∧ ys.mapM f = .ok after := by
  rw [List.mapM_append] at done
  obtain ⟨before, -, done⟩ := bind_eq_ok done
  obtain ⟨rest, behind, done⟩ := bind_eq_ok done
  obtain rfl := Except.ok.inj done
  rw [List.mapM_cons] at behind
  obtain ⟨y, first, behind⟩ := bind_eq_ok behind
  obtain ⟨after, later, behind⟩ := bind_eq_ok behind
  obtain rfl := Except.ok.inj behind
  exact ⟨before, y, after, rfl, first, later⟩

/-- Each of the results belongs to an entry. -/
theorem exists_of_mapM_eq_ok {ε α β : Type} {f : α → Except ε β} {xs : List α} {results : List β}
    (done : xs.mapM f = .ok results) {y : β} (there : y ∈ results) : ∃ x ∈ xs, f x = .ok y := by
  induction xs generalizing results with
  | nil =>
    obtain rfl := Except.ok.inj done
    cases there
  | cons x xs ih =>
    rw [List.mapM_cons] at done
    obtain ⟨first, read, done⟩ := bind_eq_ok done
    obtain ⟨others, later, done⟩ := bind_eq_ok done
    obtain rfl := Except.ok.inj done
    rcases List.mem_cons.mp there with rfl | member
    · exact ⟨x, List.mem_cons_self, read⟩
    · obtain ⟨x', inside, read'⟩ := ih later member
      exact ⟨x', List.mem_cons_of_mem x inside, read'⟩

/-- The sources are what the files hold, and at last the variables. -/
theorem sources_eq_ok {s : Surroundings} {a : Arguments} {all : List Entries}
    (said : sources s a = .ok all) : ∃ usual named, a.config.mapM (loadFile s true) = .ok named ∧
      all = usual ++ named ++ [ofVariables s.environment] := by
  obtain ⟨usual, -, said⟩ := bind_eq_ok said
  obtain ⟨named, read, said⟩ := bind_eq_ok said
  exact ⟨usual, named, read, (Except.ok.inj said).symm⟩

/-- A text in a file is in force as it stands. -/
theorem of_fromFile {setting : TextSetting} {t : String} {s : Surroundings} {a : Arguments}
    {e : Effective} (given : FromFile setting t s a) (loaded : load s a = .ok e) :
    setting.of e = some t := by
  obtain ⟨⟨earlier, path, later, bytes, source, files, found, read, said, silentFiles⟩,
    silentVariables, noOption⟩ := given
  obtain ⟨before, entry, after, rfl, gives, silent⟩ := said
  obtain ⟨all, sections, allSaid, -⟩ := sections_of_load loaded
  obtain ⟨usual, named, namedRead, rfl⟩ := sources_eq_ok allSaid
  rw [files] at namedRead
  obtain ⟨front, held, behind, rfl, heldRead, behindRead⟩ := mapM_append_cons_eq_ok namedRead
  obtain rfl : before ++ entry :: after = held := by
    rw [loadFile, found] at heldRead
    dsimp only at heldRead
    rw [read] at heldRead
    exact Except.ok.inj heldRead
  have last : (usual ++ (front ++ (before ++ entry :: after) :: behind) ++
      [ofVariables s.environment]).flatten = usual.flatten ++ front.flatten ++ before ++
        entry :: (after ++ behind.flatten ++ ofVariables s.environment) := by
    simp
  refine of_load_of_last loaded allSaid last gives ?_ (by simp [IsPlain]) rfl noOption
  intro other member
  rcases List.mem_append.mp member with member | inVariables
  · rcases List.mem_append.mp member with inFile | inLater
    · exact silent other inFile
    · obtain ⟨source, there, inside⟩ := List.mem_flatten.mp inLater
      obtain ⟨file, listed, sourceRead⟩ := exists_of_mapM_eq_ok behindRead there
      exact silentFiles file listed source sourceRead other inside
  · exact silentVariables other inVariables

/-- A setting is named by its variable. -/
theorem variableKey?_variableName (setting : TextSetting) :
    variableKey? setting.variableName = some ("ui." ++ setting.key) := by
  cases setting <;> decide +kernel

/-- The path of a setting leads through the table for the display. -/
theorem keyPath_setting (setting : TextSetting) :
    keyPath ("ui." ++ setting.key) = ["ui", setting.key] := by
  cases setting <;> decide +kernel

/-- A variable gives its setting what its text is written as. -/
theorem of_fromVariable {setting : TextSetting} {t u : String} {s : Surroundings} {a : Arguments}
    {e : Effective} (given : FromVariable setting t s a) (loaded : load s a = .ok e)
    (text : (guessValue t).toText? = some u) : setting.of e = some u := by
  obtain ⟨there, only, noOption⟩ := given
  obtain ⟨before, after, split, silent⟩ :=
    last_variable there (variableKey?_variableName setting) (keyPath_setting setting) only
  obtain ⟨all, sections, allSaid, -⟩ := sections_of_load loaded
  obtain ⟨usual, named, -, rfl⟩ := sources_eq_ok allSaid
  have gives : Gives "ui" setting.key (guessValue t) ("ui." ++ setting.key, guessValue t) :=
    .inl ⟨keyPath_setting setting, rfl⟩
  have last : (usual ++ named ++ [ofVariables s.environment]).flatten =
      usual.flatten ++ named.flatten ++ before ++
        ("ui." ++ setting.key, guessValue t) :: after := by
    simp [split]
  exact of_load_of_last loaded allSaid last gives silent (isPlain_guessValue t) text noOption

/-- A text behind an equals sign is in force as it stands. -/
theorem of_fromOption {setting : TextSetting} {t : String} {s : Surroundings} {a : Arguments}
    {e : Effective} (given : FromOption setting t a) (loaded : load s a = .ok e) :
    setting.of e = some t := by
  obtain ⟨name, words, file, option, there, parsed⟩ := given
  have own : name = .query ∧ setting = .initialQuery ∨ name = .title ∧ setting = .title := by
    cases setting <;> cases option <;> simp
  refine of_load_of_given loaded ?_
  rcases own with ⟨rfl, rfl⟩ | ⟨rfl, rfl⟩
  · obtain ⟨command, options, belongs, found, asked⟩ :=
      CommandLine.command_of_parse (by decide) rfl parsed there
    cases command with
    | pick =>
      rw [given?, asked]
      exact found
    | filter =>
      rw [given?, asked]
      exact found
    | sort => exact absurd belongs (by decide)
  · obtain ⟨command, options, belongs, found, asked⟩ :=
      CommandLine.command_of_parse (by decide) rfl parsed there
    cases command with
    | pick =>
      rw [given?, asked]
      exact found
    | sort =>
      rw [given?, asked]
      exact found
    | filter => exact absurd belongs (by decide)

end Picklist.Settings
