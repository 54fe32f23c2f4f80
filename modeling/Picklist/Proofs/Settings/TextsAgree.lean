import Picklist.Proofs.Settings.TextSettings
import Picklist.Proofs.Toml.Quoting
import Picklist.Proofs.Unicode.RoundTrip

/-!
# Texts from every place

Any text can be given in a file, on the command line and in the environment.
-/

set_option autoImplicit false

namespace Picklist.Settings

open CommandLine (Arguments attachedWord)

/-! ## Each way is open -/

/-- A document with nothing but the setting. -/
def document (setting : TextSetting) (value : List Char) : List Char :=
  Toml.entryDocument "ui".toList setting.key.toList value

/-- A document with a notation of a text says that the setting is the text. -/
theorem readEntries?_document (setting : TextSetting) {t : String} {q : List Char}
    (denotes : Toml.quoted q = some (t.toList, [])) :
    readEntries? .toml (Unicode.encode (document setting q)) =
      some [("ui", .table [(setting.key, .string t)])] := by
  have text : fileText (Unicode.encode (document setting q)) =
      String.ofList (document setting q) := Unicode.decodeLossy_encode _
  have header : Toml.IsBare "ui".toList := ⟨by decide, List.all_eq_true.mp (by decide +kernel)⟩
  have name : Toml.IsBare setting.key.toList :=
    ⟨by cases setting <;> decide, List.all_eq_true.mp (by cases setting <;> decide +kernel)⟩
  rw [readEntries?, text, document, Toml.parse?_entryDocument header name denotes]
  simp [Toml.entriesWithin, Toml.Value.integersWithin, ofTomlEntries, ofToml]

/-- A source with one entry says the text of that entry. -/
theorem saidIn_single (setting : TextSetting) (t : String) :
    SaidIn setting [("ui", .table [(setting.key, .string t)])] t := by
  have path : keyPath "ui" = ["ui"] := by decide +kernel
  exact ⟨[], _, [], rfl, .inr ⟨path, [], [], rfl, by simp⟩, by simp⟩

/-- Sections with nothing but the setting can be read. -/
theorem sections?_single (setting : TextSetting) {v : Value} {u : String}
    (text : v.toText? = some u) : ∃ sections,
      sections? [("ui", .table [(setting.key, v)])] = some sections ∧
      sections.arrange.orientation = none ∧ sections.display.theme = none := by
  have read (name : String) : optional Value.toText? [(setting.key, v)] name =
      some (if name = setting.key then some u else none) := by
    by_cases same : name = setting.key
    · rw [if_pos same, same]
      exact optional_toText? List.lookup_cons_self text
    · rw [if_neg same, optional, lookup_cons_of_ne same]
      rfl
  have noTheme : "theme" ≠ setting.key := by cases setting <;> decide
  refine ⟨{ display := {
    title := if "title" = setting.key then some u else none
    prompt := if "prompt" = setting.key then some u else none
    initialQuery := if "initial_query" = setting.key then some u else none } }, ?_, rfl, rfl⟩
  rw [sections?, sectionOr, lookup_cons_of_ne (by decide), sectionOr, lookup_cons_of_ne (by decide),
    sectionOr, List.lookup_cons_self]
  simp [displaySection?, fields?, read, noTheme]

/-- A group with one setting is merged into nothing as it is. -/
theorem mergeSource_group {key : String} {v : Value} (plain : IsPlain v) :
    mergeSource (.table []) [("ui", .table [(key, v)])] = .table [("ui", .table [(key, v)])] := by
  have path : keyPath "ui" = ["ui"] := by decide +kernel
  have inner : assignAll (.table []) [(key, v)] = .table [(key, v)] := by
    rw [assignAll, assign_plain plain]
    rfl
  have outer : assign "ui" (.table []) (.table [(key, v)]) =
      .table [("ui", .table [(key, v)])] := by
    rw [assign]
    simp only [Value.entries, List.lookup_nil, Option.getD_none]
    rw [inner]
    rfl
  rw [mergeSource_eq_foldl, List.foldl_cons, List.foldl_nil, mergeEntry, path, assignAt, outer]

/-- The path of a setting is merged into nothing as the group with this setting. -/
theorem mergeSource_path {setting : TextSetting} {v : Value} (plain : IsPlain v) :
    mergeSource (.table []) [("ui." ++ setting.key, v)] =
      .table [("ui", .table [(setting.key, v)])] := by
  rw [mergeSource_eq_foldl, List.foldl_cons, List.foldl_nil, mergeEntry, keyPath_setting, assignAt]
  · simp only [Value.entries, List.lookup_nil, Option.getD_none, assignAt]
    rw [assign_plain plain]
    rfl
  · exact List.cons_ne_nil _ _

/-- Nothing but an axis and the name of a theme can be wrong in sections. -/
theorem exists_load {s : Surroundings} {a : Arguments} {all : List Entries} {sections : Sections}
    (said : sources s a = .ok all)
    (read : sections? (mergeSource (.table []) all.flatten).entries = some sections)
    (noAxis : sections.arrange.orientation = none) (noTheme : sections.display.theme = none)
    (noThemeGiven : a.theme = none) (noSort : ∀ sort, a.command ≠ some (.sort sort)) :
    ∃ e, load s a = .ok e := by
  have arrange : (sections.withArguments a).arrange.orientation = none := by
    rcases command : a.command with _ | ⟨select, text⟩ | select | sort
    · simpa [Sections.withArguments, command] using noAxis
    · simpa [Sections.withArguments, Sections.withSelectArguments, Sections.withTitle, command]
        using noAxis
    · simpa [Sections.withArguments, Sections.withSelectArguments, command] using noAxis
    · exact absurd command (noSort sort)
  have theme : (sections.withArguments a).display.theme = none := by
    rcases command : a.command with _ | ⟨select, text⟩ | select | sort <;>
      simp [Sections.withArguments, Sections.withSelectArguments, Sections.withTitle, command,
        noTheme, noThemeGiven]
  rw [← foldl_mergeSource_eq] at read
  simp [load, said, read, Sections.resolve, ArrangeSection.toConfig, arrange, theme, nonBlank?,
    themeOf, bind, Except.bind]

/-- A file with nothing but the setting. -/
def fileOnly (setting : TextSetting) (value : List Char) : Surroundings where
  fileAt path := if path = "a.toml" then some (Unicode.encode (document setting value)) else none

/-- An environment with nothing but the variable of the setting. -/
def variableOnly (setting : TextSetting) (t : String) : Surroundings where
  environment := [(setting.variableName, t)]

/-- A single variable gives a single entry with the value guessed from its text. -/
theorem ofVariables_variableOnly (setting : TextSetting) (t : String) :
    ofVariables (variableOnly setting t).environment = [("ui." ++ setting.key, guessValue t)] := by
  simp [ofVariables, variableOnly, variableKey?_variableName]

/-- A file alone gives any text, in any notation. -/
theorem exists_load_fileOnly (setting : TextSetting) {t : String} {q : List Char}
    (denotes : Toml.quoted q = some (t.toList, [])) :
    FromFile setting t (fileOnly setting q) { config := ["a.toml"], noConfig := true } ∧
      ∃ e, load (fileOnly setting q) { config := ["a.toml"], noConfig := true } = .ok e := by
  have format : formatOf? "a.toml" = some .toml := by decide +kernel
  have found : findFile (fileOnly setting q) "a.toml" =
      some (some .toml, Unicode.encode (document setting q)) := by
    simp [findFile, fileOnly, format]
  have read := readEntries?_document setting denotes
  have noVariables : ofVariables (fileOnly setting q).environment = [] := by
    simp [ofVariables, fileOnly]
  refine ⟨⟨⟨[], "a.toml", [], _, _, rfl, found, read, saidIn_single setting t, by simp⟩, ?_, ?_⟩,
    ?_⟩
  · rw [noVariables]
    exact fun _ member => absurd member (List.not_mem_nil)
  · cases setting <;> rfl
  · have said : sources (fileOnly setting q) { config := ["a.toml"], noConfig := true } =
        .ok [[("ui", .table [(setting.key, .string t)])], []] := by
      simp [sources, loadFile, found, read, noVariables, bind, Except.bind, pure, Except.pure]
    obtain ⟨sections, sectionsRead, noAxis, noTheme⟩ :=
      sections?_single setting (v := .string t) rfl
    refine exists_load said ?_ noAxis noTheme rfl (by simp)
    rw [show [[("ui", Value.table [(setting.key, .string t)])], []].flatten =
      [("ui", .table [(setting.key, .string t)])] from rfl, mergeSource_group (by simp [IsPlain])]
    exact sectionsRead

/-- A variable alone gives any text. -/
theorem exists_load_variableOnly (setting : TextSetting) {t u : String}
    (text : (guessValue t).toText? = some u) :
    FromVariable setting t (variableOnly setting t) { noConfig := true } ∧
      ∃ e, load (variableOnly setting t) { noConfig := true } = .ok e := by
  refine ⟨⟨List.mem_singleton_self _, ?_, ?_⟩, ?_⟩
  · exact fun entry member _ _ _ => List.mem_singleton.mp member
  · cases setting <;> rfl
  · have said : sources (variableOnly setting t) { noConfig := true } =
        .ok [[("ui." ++ setting.key, guessValue t)]] := by
      simp [sources, ofVariables_variableOnly, bind, Except.bind, pure, Except.pure]
    obtain ⟨sections, sectionsRead, noAxis, noTheme⟩ := sections?_single setting text
    refine exists_load said ?_ noAxis noTheme rfl (by simp)
    rw [show [[("ui." ++ setting.key, guessValue t)]].flatten =
      [("ui." ++ setting.key, guessValue t)] from rfl, mergeSource_path (isPlain_guessValue t)]
    exact sectionsRead

/-- An option alone gives any text. -/
theorem exists_load_optionOnly (setting : TextSetting) {name : CommandLine.OptionName}
    (option : setting.option? = some name) (t : String) :
    ∃ a, CommandLine.parse ["pick", attachedWord name t] none = .ok a ∧
      ∃ e, load {} a = .ok e := by
  have fits : name ∈ (CommandLine.Level.behind .pick).options ∧ name.valueKind = .text ∧
      name ∉ CommandLine.sharedOptions := by
    cases setting <;> cases option <;> decide
  obtain ⟨belongs, text, absent⟩ := fits
  obtain ⟨a, parsed, noFiles, usual, noTheme, command⟩ :=
    CommandLine.parse_attachedWord "pick" t rfl belongs text absent
  refine ⟨a, parsed, ?_⟩
  have said : sources {} a = .ok [[], [], []] := by
    have missing (path : Path) : loadFile {} false path = .ok [] := by
      have noFile : findFile {} path = none := by simp [findFile, completedNames, fileFormats]
      rw [loadFile, noFile]
      rfl
    have home : Surroundings.configFile? {} = none := by decide
    simp [sources, noFiles, usual, usualFiles, home, localFiles, missing, ofVariables, bind,
      Except.bind, pure, Except.pure]
  have read : sections? (mergeSource (.table []) [[], [], []].flatten).entries = some {} := rfl
  refine exists_load said read rfl rfl noTheme ?_
  rintro sort same
  rw [command] at same
  cases same

/-! ## Agreement -/

/-- Where a text is given in a certain way, settings can be loaded, and the setting is always the
text on the right. -/
def Resolves (setting : TextSetting) (given : Surroundings → Arguments → Prop) (u : String) :
    Prop :=
  (∃ s a e, given s a ∧ load s a = .ok e) ∧
    ∀ s a e, given s a → load s a = .ok e → setting.of e = some u

/-- A setting resolves to one text at the most. -/
theorem Resolves.unique {setting : TextSetting} {given : Surroundings → Arguments → Prop}
    {u w : String} (first : Resolves setting given u) (second : Resolves setting given w) :
    u = w := by
  obtain ⟨⟨s, a, e, there, loaded⟩, is_first⟩ := first
  have same := (is_first s a e there loaded).symm.trans (second.2 s a e there loaded)
  exact Option.some.inj same

/-- A setting given by a variable resolves to the text of the guessed value. -/
theorem resolves_fromVariable {setting : TextSetting} {t u : String}
    (text : (guessValue t).toText? = some u) : Resolves setting (FromVariable setting t) u := by
  obtain ⟨given, e, loaded⟩ := exists_load_variableOnly setting text
  exact ⟨⟨_, _, e, given, loaded⟩, fun _ _ _ given loaded => of_fromVariable given loaded text⟩

/-- **Texts are the same from every place but for guesses.** A text for the title, the prompt or the
query at the start, given in a file in any TOML notation, is in force unchanged; so it is when it is
given behind an equals sign on the command line, where the setting has an option. A variable gives
what the program writes for the truth value or the number that the text spells, and the text
unchanged if it spells none. So a variable agrees with the other places exactly where the text is
written as the program would write it. -/
theorem texts_agree_but_for_guesses (setting : TextSetting) (t : String) :
    (∃ q, Toml.quoted q = some (t.toList, [])) ∧
    (∀ q, Toml.quoted q = some (t.toList, []) → ∃ source,
      readEntries? .toml (Unicode.encode (document setting q)) = some source ∧
        SaidIn setting source t) ∧
    Resolves setting (FromFile setting t) t ∧
    (setting.option?.isSome → Resolves setting (fun _ a => FromOption setting t a) t) ∧
    (∀ u, Restated t u → Resolves setting (FromVariable setting t) u) ∧
    ((∀ u, ¬ Restated t u) → Resolves setting (FromVariable setting t) t) ∧
    (Resolves setting (FromVariable setting t) t ↔ ∀ u, Restated t u → u = t) := by
  have guessed (u : String) (restated : Restated t u) :
      Resolves setting (FromVariable setting t) u :=
    resolves_fromVariable (toText?_guessValue_of_restated restated)
  have kept (other : ∀ u, ¬ Restated t u) : Resolves setting (FromVariable setting t) t :=
    resolves_fromVariable (by rw [guessValue_of_not_restated other]; rfl)
  have spelled_out := Toml.quoted_basicString t.toList
  refine ⟨⟨_, spelled_out⟩, ?_, ?_, ?_, guessed, kept, ?_⟩
  · exact fun q denotes => ⟨_, readEntries?_document setting denotes, saidIn_single setting t⟩
  · obtain ⟨given, e, loaded⟩ := exists_load_fileOnly setting spelled_out
    exact ⟨⟨_, _, e, given, loaded⟩, fun _ _ _ => of_fromFile⟩
  · intro own
    obtain ⟨name, option⟩ := Option.isSome_iff_exists.mp own
    obtain ⟨a, parsed, e, loaded⟩ := exists_load_optionOnly setting option t
    have given : FromOption setting t a := ⟨name, _, none, option, by simp, parsed⟩
    exact ⟨⟨_, a, e, given, loaded⟩, fun _ _ _ => of_fromOption⟩
  · constructor
    · exact fun same u restated => (guessed u restated).unique same
    · intro written
      by_cases spelled : ∃ u, Restated t u
      · obtain ⟨u, restated⟩ := spelled
        have same := guessed u restated
        rwa [written u restated] at same
      · exact kept (not_exists.mp spelled)

/-- Zeros in front get lost in a variable, and a word stays as it is. -/
theorem texts_agree_but_for_guesses_zeros :
    Toml.quoted "'007'".toList = some ("007".toList, []) ∧
    TextSetting.initialQuery.option?.isSome ∧ Restated "007" "7" ∧ (∀ u, ¬ Restated "red" u) ∧
    (∃ source, readEntries? .toml (Unicode.encode (document .initialQuery "'007'".toList)) =
      some source ∧ SaidIn .initialQuery source "007") ∧
    Resolves .initialQuery (FromFile .initialQuery "007") "007" ∧
    Resolves .initialQuery (fun _ a => FromOption .initialQuery "007" a) "007" ∧
    Resolves .initialQuery (FromVariable .initialQuery "007") "7" ∧
    Resolves .initialQuery (FromVariable .initialQuery "red") "red" := by
  have literal : Toml.quoted "'007'".toList = some ("007".toList, []) := by decide +kernel
  have zeros : Restated "007" "7" := by
    have spells : SpellsWhole "007".toList 7 :=
      exponent?_eq_some_iff.mp (by decide +kernel)
    exact .whole spells (by decide) (by decide)
  have word : ∀ u, ¬ Restated "red" u := by
    rintro u (word | word | ⟨spells, -, -⟩ | ⟨spells, -⟩)
    · revert word
      decide +kernel
    · revert word
      decide +kernel
    · have none : exponent? "red".toList = none := by decide +kernel
      rw [← exponent?_eq_some_iff, none] at spells
      cases spells
    · have none : floatNumber? "red".toList = none := by decide +kernel
      rw [← floatNumber?_eq_some_iff, none] at spells
      cases spells
  obtain ⟨-, inDocument, inFile, onCommandLine, guessed, -, -⟩ :=
    texts_agree_but_for_guesses .initialQuery "007"
  obtain ⟨-, -, -, -, -, kept, -⟩ := texts_agree_but_for_guesses .initialQuery "red"
  exact ⟨literal, rfl, zeros, word, inDocument _ literal, inFile, onCommandLine rfl,
    guessed "7" zeros, kept word⟩

/-- The same text is the query at the start from a file and from the command line, and another one
from the environment. -/
theorem zeros_get_lost_in_variables :
    (∃ e, load (fileOnly .initialQuery "'007'".toList)
      { config := ["a.toml"], noConfig := true } = .ok e ∧ e.initialQuery = "007") ∧
    (∃ a e, CommandLine.parse ["pick", "--query=007"] none = .ok a ∧ load {} a = .ok e ∧
      e.initialQuery = "007") ∧
    ∃ e, load { environment := [("LISTKIT__UI__INITIAL_QUERY", "007")] } { noConfig := true } =
      .ok e ∧ e.initialQuery = "7" := by
  refine ⟨?_, ?_, ?_⟩
  · obtain ⟨given, e, loaded⟩ :=
      exists_load_fileOnly .initialQuery (t := "007") (q := "'007'".toList)
        (by decide +kernel)
    exact ⟨e, loaded, Option.some.inj (of_fromFile given loaded)⟩
  · have word : attachedWord .query "007" = "--query=007" := by decide +kernel
    obtain ⟨a, parsed, e, loaded⟩ :=
      exists_load_optionOnly .initialQuery rfl "007"
    have given : FromOption .initialQuery "007" a := ⟨.query, _, none, rfl, by simp, parsed⟩
    rw [word] at parsed
    exact ⟨a, e, parsed, loaded, Option.some.inj (of_fromOption given loaded)⟩
  · have text : (guessValue "007").toText? = some "7" := by decide +kernel
    obtain ⟨given, e, loaded⟩ := exists_load_variableOnly .initialQuery text
    exact ⟨e, loaded, Option.some.inj (of_fromVariable given loaded text)⟩

end Picklist.Settings
