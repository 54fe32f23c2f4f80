import Mathlib.Data.List.Basic
import Picklist.CommandLine.Arguments

/-!
# Values behind an equals sign

A word such as `--query=` with a text behind it gives the option this very text, whatever the text
looks like. Reading the rest of the command line only adds options, and an option that may be given
once is not given again, so the value still stands when the whole line has been read.
-/

set_option autoImplicit false

namespace Picklist.CommandLine

/-- A bind succeeds where both of its parts do. -/
theorem bind_eq_ok {ε α β : Type} {x : Except ε α} {f : α → Except ε β} {b : β}
    (done : (x >>= f) = .ok b) : ∃ a, x = .ok a ∧ f a = .ok b := by
  cases x with
  | error e => cases done
  | ok a => exact ⟨a, rfl, done⟩

/-- The word that gives an option a value. -/
def attachedWord (name : OptionName) (value : String) : String :=
  "--" ++ name.long ++ "=" ++ value

/-! ## Options only grow -/

/-- The values given in two parts are those of both. -/
theorem values_append (given more : Given) (name : OptionName) :
    Given.values (given ++ more) name = given.values name ++ Given.values more name := by
  simp [Given.values]

/-- What an option was given first stays its value whatever is given later. -/
theorem value?_of_isPrefix {given later : Given} {name : OptionName} {value : String}
    (grown : given <+: later) (found : given.value? name = some value) :
    later.value? name = some value := by
  obtain ⟨more, rfl⟩ := grown
  rw [Given.value?, values_append, List.head?_append, ← Given.value?.eq_def, found, Option.some_or]

/-- An option that was not given has no values. -/
theorem values_eq_nil_of_not_has {given : Given} {name : OptionName}
    (absent : given.has name = false) : given.values name = [] := by
  simpa [Given.has, Given.values, List.filter_eq_nil_iff] using absent

/-- An added option stands behind the ones before, and one that may be given once was not there. -/
theorem add_eq_ok {given later : Given} {name : OptionName} {value : String}
    (added : given.add name value = .ok later) :
    later = given ++ [(name, value)] ∧ (name.repeats = false → given.has name = false) := by
  unfold Given.add at added
  split at added
  · cases added
  · rename_i allowed
    obtain ⟨-, -, rest⟩ := bind_eq_ok added
    refine ⟨(Except.ok.inj rest).symm, fun once => ?_⟩
    simpa [once] using allowed

/-- A value is added behind what was given before. -/
theorem add_isPrefix {given later : Given} {name : OptionName} {value : String}
    (added : given.add name value = .ok later) : given <+: later := by
  obtain ⟨rfl, -⟩ := add_eq_ok added
  exact List.prefix_append _ _

/-- An option that may be given once has the value that was added. -/
theorem value?_of_add {given later : Given} {name : OptionName} {value : String}
    (once : name.repeats = false) (added : given.add name value = .ok later) :
    later.value? name = some value := by
  obtain ⟨rfl, absent⟩ := add_eq_ok added
  rw [Given.value?, values_append, values_eq_nil_of_not_has (absent once)]
  simp [Given.values]

namespace Scan

variable {s t : Scan}

/-- Settling what waits takes nothing back that was given. -/
theorem settle_isPrefix (done : s.settle = .ok t) : s.given <+: t.given := by
  unfold settle at done
  split at done
  · cases done
    exact List.prefix_rfl
  · cases done
  · obtain ⟨given, added, rest⟩ := bind_eq_ok done
    cases rest
    exact add_isPrefix added

/-- A flag takes nothing back that was given. -/
theorem takeFlag_isPrefix {name : OptionName} (done : s.takeFlag name = .ok t) :
    s.given <+: t.given := by
  obtain ⟨settled, first, rest⟩ := bind_eq_ok done
  split at rest
  · cases rest
  · cases rest
  · obtain ⟨given, added, last⟩ := bind_eq_ok rest
    cases last
    exact (settle_isPrefix first).trans (add_isPrefix added)

/-- An option with its value takes nothing back that was given. -/
theorem takeAttached_isPrefix {name : OptionName} {value : String}
    (done : s.takeAttached name value = .ok t) : s.given <+: t.given := by
  obtain ⟨settled, first, rest⟩ := bind_eq_ok done
  obtain ⟨given, added, last⟩ := bind_eq_ok rest
  cases last
  exact (settle_isPrefix first).trans (add_isPrefix added)

/-- An option that waits for its value takes nothing back that was given. -/
theorem takeWaiting_isPrefix {name : OptionName} (done : s.takeWaiting name = .ok t) :
    s.given <+: t.given := by
  obtain ⟨settled, first, rest⟩ := bind_eq_ok done
  have kept : s.given <+: settled.given := settle_isPrefix first
  obtain rfl := Except.ok.inj rest
  exact kept

/-- A long option takes nothing back that was given. -/
theorem takeLong_isPrefix {level : Level} {cs : List Char}
    (done : takeLong level s cs = .ok t) : s.given <+: t.given := by
  unfold takeLong at done
  dsimp only at done
  split at done
  · cases done
  · split at done
    · cases done
    · exact takeFlag_isPrefix done
    · exact takeAttached_isPrefix done
    · exact takeWaiting_isPrefix done

/-- Short options take nothing back that was given. -/
theorem takeLetters_isPrefix {level : Level} {cs : List Char}
    (done : takeLetters level s cs = .ok t) : s.given <+: t.given := by
  induction cs generalizing s with
  | nil =>
    cases done
    exact List.prefix_rfl
  | cons letter cs ih =>
    unfold takeLetters at done
    split at done
    · cases done
    · split at done
      · obtain ⟨next, first, rest⟩ := bind_eq_ok done
        exact (takeFlag_isPrefix first).trans (ih rest)
      · split at done
        · exact takeWaiting_isPrefix done
        · exact takeAttached_isPrefix done
        · exact takeAttached_isPrefix done

/-- A word takes nothing back that was given. -/
theorem takeWord_isPrefix {level : Level} {word : String}
    (done : takeWord level s word = .ok t) : s.given <+: t.given := by
  unfold takeWord at done
  split at done
  · cases done
    exact List.prefix_rfl
  · split at done
    · split at done <;> cases done
    · cases done

/-- An argument takes nothing back that was given, whatever it is. -/
theorem take_isPrefix {level : Level} {word : String} (done : take level s word = .ok t) :
    s.given <+: t.given := by
  unfold take at done
  split at done
  · exact takeWord_isPrefix done
  · split at done
    · cases done
      exact List.prefix_rfl
    · exact takeLong_isPrefix done
    · exact takeLetters_isPrefix done
    · exact takeWord_isPrefix done

end Scan

/-- Reading words only adds options. -/
theorem scanWords_isPrefix {level : Level} {words : List String} {s t : Scan}
    {rest : Option (CommandName × List String)} (done : scanWords level s words = .ok (t, rest)) :
    s.given <+: t.given := by
  induction words generalizing s with
  | nil =>
    cases done
    exact List.prefix_rfl
  | cons word words ih =>
    unfold scanWords at done
    split at done
    · cases done
      exact List.prefix_rfl
    · split at done
      · cases done
      · obtain ⟨next, first, later⟩ := bind_eq_ok done
        exact (Scan.take_isPrefix first).trans (ih later)

/-! ## Words with a value -/

/-- Different options have different long names. -/
theorem long_injective {a b : OptionName} (same : a.long = b.long) : a = b := by
  revert same
  cases a <;> cases b <;> decide

/-- No long name has an equals sign in it. -/
theorem equals_notMem_long (name : OptionName) : '=' ∉ name.long.toList := by
  cases name <;> decide

/-- An attached value stands behind the long name and an equals sign. -/
theorem toList_attachedWord (name : OptionName) (value : String) :
    (attachedWord name value).toList =
      '-' :: '-' :: (name.long.toList ++ '=' :: value.toList) := by
  simp [attachedWord]

/-- The word is no command and asks for no help. -/
theorem attachedWord_ne (name : OptionName) (value : String) :
    CommandName.ofText? (attachedWord name value) = none ∧ attachedWord name value ≠ "help" := by
  have hyphen : (attachedWord name value).toList.head? = some '-' := by
    rw [toList_attachedWord, List.head?_cons]
  have other {word : String} (letter : word.toList.head? ≠ some '-') :
      attachedWord name value ≠ word := by
    rintro same
    exact letter (same ▸ hyphen)
  refine ⟨?_, other (by decide)⟩
  unfold CommandName.ofText?
  split
  · rename_i same
    exact absurd same (other (by decide))
  · rename_i same
    exact absurd same (other (by decide))
  · rename_i same
    exact absurd same (other (by decide))
  · rfl

/-- The option that is found by a long name is the one with that name, and known at the level. -/
theorem withName?_long {level : Level} {name option : OptionName}
    (found : level.withName? name.long = some option) : option = name ∧ name ∈ level.options := by
  obtain rfl : option = name := long_injective (by simpa using List.find?_some found)
  exact ⟨rfl, List.mem_of_find?_eq_some found⟩

namespace Scan

variable {level : Level} {name : OptionName}

/-- While options may be given, the word is read as the name of its option and the value. -/
theorem take_attachedWord {s : Scan} (going : s.ended = false) (value : String) :
    s.take level (attachedWord name value) =
      s.takeLong level (name.long.toList ++ '=' :: value.toList) := by
  rw [take, going, toList_attachedWord]
  cases name.long.toList <;> rfl

/-- A long option with its value attached is taken with that value, if it is known and takes one. -/
theorem takeLong_attached {s : Scan} (value : String) :
    s.takeLong level (name.long.toList ++ '=' :: value.toList) =
      match level.withName? name.long with
      | none => .error .unexpectedWord
      | some option =>
        if option.valueKind = .none then .error .needlessValue
        else s.takeAttached option value := by
  have noEquals : ∀ c ∈ name.long.toList, (c != '=') = true := by
    intro c member
    simp only [bne_iff_ne]
    rintro rfl
    exact equals_notMem_long name member
  have front : (name.long.toList ++ '=' :: value.toList).takeWhile (· != '=') =
      name.long.toList := by
    rw [List.takeWhile_append_of_pos noEquals, List.takeWhile_cons_of_neg (by simp),
      List.append_nil]
  have behind : (name.long.toList ++ '=' :: value.toList).dropWhile (· != '=') =
      '=' :: value.toList := by
    rw [List.dropWhile_append_of_pos noEquals, List.dropWhile_cons_of_neg (by simp)]
  rw [takeLong, front, behind]
  simp only [String.ofList_toList]
  cases level.withName? name.long with
  | none => rfl
  | some option =>
    dsimp only
    cases option.valueKind <;> rfl

/-- Where the word is read, its option belongs to the level and has got the value. -/
theorem value?_of_take {s t : Scan} {value : String} (once : name.repeats = false)
    (done : s.take level (attachedWord name value) = .ok t)
    (behind : ∃ command, level = .behind command) :
    name ∈ level.options ∧ t.given.value? name = some value := by
  cases going : s.ended with
  | true =>
    obtain ⟨command, rfl⟩ := behind
    rw [take, going, if_pos rfl, takeWord, going] at done
    cases done
  | false =>
    rw [take_attachedWord going, takeLong_attached] at done
    split at done
    · cases done
    · rename_i found
      obtain ⟨rfl, belongs⟩ := withName?_long found
      split at done
      · cases done
      · obtain ⟨settled, -, rest⟩ := bind_eq_ok done
        obtain ⟨given, added, last⟩ := bind_eq_ok rest
        obtain rfl := Except.ok.inj last
        exact ⟨belongs, value?_of_add once added⟩

/-- In front of the command the word is refused where its option does not belong there. -/
theorem take_front_ne_ok {s t : Scan} {value : String} (absent : name ∉ Level.front.options) :
    s.take .front (attachedWord name value) ≠ .ok t := by
  intro done
  cases going : s.ended with
  | true =>
    rw [take, going, if_pos rfl, takeWord, going] at done
    dsimp only at done
    split at done <;> cases done
  | false =>
    rw [take_attachedWord going, takeLong_attached] at done
    split at done
    · cases done
    · rename_i found
      exact absent (withName?_long found).2

end Scan

/-! ## Command lines -/

section Words

variable {name : OptionName} {value : String}

/-- Behind the command, a level with the word has given its option the value in the end. -/
theorem value?_of_scanWords {command : CommandName} {words : List String} {s t : Scan}
    {rest : Option (CommandName × List String)} (once : name.repeats = false)
    (done : scanWords (.behind command) s words = .ok (t, rest))
    (there : attachedWord name value ∈ words) :
    name ∈ (Level.behind command).options ∧ t.given.value? name = some value := by
  induction words generalizing s with
  | nil => cases there
  | cons word words ih =>
    rw [scanWords, commandAt?, if_neg (by simp)] at done
    dsimp only at done
    rw [if_neg (by simp)] at done
    obtain ⟨next, first, later⟩ := bind_eq_ok done
    rcases List.mem_cons.mp there with rfl | inside
    · -- the word is read here, and what follows only adds options
      obtain ⟨belongs, found⟩ := Scan.value?_of_take once first ⟨command, rfl⟩
      exact ⟨belongs, value?_of_isPrefix (scanWords_isPrefix later) found⟩
    · exact ih later inside

/-- A word that does not belong in front of the command stands behind it. -/
theorem exists_command_of_scanWords {words : List String} {s t : Scan}
    {rest : Option (CommandName × List String)} (absent : name ∉ Level.front.options)
    (done : scanWords .front s words = .ok (t, rest)) (there : attachedWord name value ∈ words) :
    ∃ command behind, rest = some (command, behind) ∧ attachedWord name value ∈ behind := by
  induction words generalizing s with
  | nil => cases there
  | cons word words ih =>
    rcases List.mem_cons.mp there with rfl | inside
    · obtain ⟨noCommand, noHelp⟩ := attachedWord_ne name value
      have here : commandAt? .front s (attachedWord name value) = none := by
        rw [commandAt?, noCommand, ite_self]
      rw [scanWords, here] at done
      dsimp only at done
      rw [if_neg (by simp [noHelp])] at done
      obtain ⟨next, first, -⟩ := bind_eq_ok done
      exact absurd first (Scan.take_front_ne_ok absent)
    · unfold scanWords at done
      split at done
      · obtain ⟨-, rfl⟩ := Prod.mk.inj (Except.ok.inj done)
        exact ⟨_, _, rfl, inside⟩
      · split at done
        · cases done
        · obtain ⟨next, -, later⟩ := bind_eq_ok done
          exact ih later inside

/-- The options of a level are those that have been scanned, with the last one settled. -/
theorem scanned_of_level {l : Level} {words : List String} {file : Option Path} {given : Given}
    (done : level l words file = .ok given) :
    ∃ t rest, scanWords l {} words = .ok (t, rest) ∧ t.given <+: given := by
  obtain ⟨⟨t, rest⟩, scanned, later⟩ := bind_eq_ok done
  obtain ⟨settled, ended, checked⟩ := bind_eq_ok later
  obtain ⟨-, -, same⟩ := bind_eq_ok checked
  obtain rfl := Except.ok.inj same
  exact ⟨t, rest, scanned, Scan.settle_isPrefix ended⟩

/-- An accepted command line with the word has a command with this option and the value. -/
theorem command_of_parse {words : List String} {file : Option Path} {a : Arguments}
    (absent : name ∉ Level.front.options) (once : name.repeats = false)
    (done : parse words file = .ok a) (there : attachedWord name value ∈ words) :
    ∃ command given, name ∈ (Level.behind command).options ∧ given.value? name = some value ∧
      a.command = some (commandOf given command) := by
  obtain ⟨⟨s, rest⟩, front, later⟩ := bind_eq_ok done
  obtain ⟨command, behind, rfl, inside⟩ := exists_command_of_scanWords absent front there
  obtain ⟨given, read, later⟩ := bind_eq_ok later
  obtain ⟨t, rest, scanned, grown⟩ := scanned_of_level read
  obtain ⟨belongs, found⟩ := value?_of_scanWords once scanned inside
  refine ⟨command, given, belongs, value?_of_isPrefix grown found, ?_⟩
  obtain ⟨both, same, later⟩ := bind_eq_ok later
  obtain rfl := Except.ok.inj same
  obtain ⟨settled, -, checked⟩ := bind_eq_ok later
  obtain ⟨-, -, same⟩ := bind_eq_ok checked
  obtain rfl := Except.ok.inj same
  rfl

end Words

/-- A command line of a command and the word is accepted where the option belongs to the command
and takes any text. -/
theorem parse_attachedWord {name : OptionName} {command : CommandName} (word value : String)
    (names : CommandName.ofText? word = some command)
    (belongs : name ∈ (Level.behind command).options) (text : name.valueKind = .text)
    (absent : name ∉ sharedOptions) :
    ∃ a, parse [word, attachedWord name value] none = .ok a ∧ a.config = [] ∧ a.noConfig = false ∧
      a.theme = none ∧ a.command = some (commandOf [(name, value)] command) := by
  have found : (Level.behind command).withName? name.long = some name := by
    revert belongs
    cases command <;> cases name <;> decide
  have read : Scan.take (.behind command) {} (attachedWord name value) =
      .ok { given := [(name, value)] } := by
    rw [Scan.take_attachedWord rfl, Scan.takeLong_attached, found]
    dsimp only
    rw [if_neg (by simp [text])]
    simp [Scan.takeAttached, Scan.settle, Given.add, Given.has, text, checkValue, bind, Except.bind]
  have behind : level (.behind command) [attachedWord name value] none = .ok [(name, value)] := by
    simp [level, scanWords, commandAt?, read, Scan.settle, checkEnvironmentFile, bind, Except.bind]
  have front : scanWords .front {} [word, attachedWord name value] =
      .ok ({}, some (command, [attachedWord name value])) := by
    simp [scanWords, commandAt?, Scan.isWaiting, names]
  have other (shared : OptionName) (member : shared ∈ sharedOptions) :
      countingLevel [] [(name, value)] shared = [] := by
    have differs : name ≠ shared := by
      rintro rfl
      exact absent member
    simp [countingLevel, Given.has, differs]
  refine ⟨argumentsOf [] [(name, value)] (some command) none, ?_, ?_, ?_, ?_, rfl⟩
  · simp [parse, front, behind, Scan.settle, checkEnvironmentFile, bind, Except.bind]
  · simp [argumentsOf, other .config (by decide), Given.values]
  · simp [argumentsOf, other .noConfig (by decide), Given.has]
  · simp [argumentsOf, other .theme (by decide), Given.value?, Given.values]

end Picklist.CommandLine
