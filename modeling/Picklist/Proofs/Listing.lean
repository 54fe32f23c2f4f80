import Mathlib.Data.List.Nodup
import Picklist.Proofs.Json.Choices
import Picklist.Proofs.Lists
import Picklist.Proofs.Text.Lines
import Picklist.Proofs.Text.NormalForm

/-!
# Lists of choices without repeated keys

A text lists choices, one for each item of a JSON array or one for each line that is not blank.
Loading it drops the choices whose key an earlier one has and nothing else, so every key is there
once, with its first choice and in order. Such a list is loaded as it is from any JSON text of it.
-/

set_option autoImplicit false

namespace Picklist

/-- Nothing is left of a text by trimming if and only if all of it is white space. -/
theorem Unicode.trim_eq_nil_iff (cs : List Char) : trim cs = [] ↔ cs.all isWhiteSpace = true := by
  have none_left : trim cs = [] ↔ trimStart cs = [] := by
    constructor
    · intro gone
      have blank : ∀ c ∈ trimStart cs, isWhiteSpace c = true := by
        simpa [trim, trimEnd, List.dropWhile_eq_nil_iff] using gone
      by_contra left
      obtain ⟨c, rest, start⟩ := List.exists_cons_of_ne_nil left
      have filled := head?_trimStart cs
      rw [start, List.head?_cons, Option.any_some] at filled
      rw [blank c (by rw [start]; exact List.mem_cons_self)] at filled
      cases filled
    · intro gone
      rw [trim, gone]
      rfl
  rw [none_left, trimStart, List.dropWhile_eq_nil_iff, List.all_eq_true]

/-! ## Choices in JSON -/

namespace Json.Value

variable {v : Value}

/-- Only strings have a text. -/
theorem text?_eq_some_iff {text : String} : v.text? = some text ↔ v = .string text := by
  cases v <;> simp [text?]

/-- Only truth values can be read as a flag. -/
theorem flag?_eq_some_iff {flag : Bool} : v.flag? = some flag ↔ v = .boolean flag := by
  cases v <;> simp [flag?]

/-- Only an array of strings can be read as texts. -/
theorem texts?_eq_some_iff {texts : List String} :
    v.texts? = some texts ↔ v = Json.ofTexts texts := by
  constructor
  · intro read
    cases v with
    | array items =>
      have each := mapM_eq_some_iff.mp (show items.mapM text? = some texts from read)
      have same : items = texts.map .string := by
        clear read
        induction each with
        | nil => rfl
        | cons first _ ih => rw [List.map_cons, ← ih, text?_eq_some_iff.mp first]
      exact congrArg Value.array same
    | _ => cases read
  · rintro rfl
    exact Choice.texts?_ofTexts texts

end Json.Value

namespace Choice

open Json (Value Members)

/-- The key in an object is written out, or it is the label. -/
def KeyIn (members : Members) (c : Choice) : Prop :=
  members.lookup "key" = some (.string c.key) ∨
    (members.lookup "key" = none ∨ members.lookup "key" = some .null) ∧ c.key = c.label

/-- A choice is spelled by a string, its label, or by an object in which all but the label may
be left out. -/
inductive Spells : Value → Choice → Prop where
  | label (label : String) : Spells (.string label) (ofLabel label)
  | object {members : Members} {c : Choice} (once : Json.eachOnce fieldNames members = true)
    (label : members.lookup "label" = some (.string c.label)) (key : KeyIn members c)
    (keywords : members.lookup "keywords" = some (Json.ofTexts c.keywords) ∨
      members.lookup "keywords" = none ∧ c.keywords = [])
    (disabled : members.lookup "disabled" = some (.boolean c.disabled) ∨
      members.lookup "disabled" = none ∧ c.disabled = false) : Spells (.object members) c

/-- Reading finds the key that the object spells, and the label where it spells none. -/
theorem keyOr_eq_some_iff {members : Members} {c : Choice} :
    keyOr c.label (members.lookup "key") = some c.key ↔ KeyIn members c := by
  unfold keyOr KeyIn
  cases members.lookup "key" with
  | none => simp [eq_comm]
  | some v => cases v <;> simp [Value.text?, eq_comm]

/-- Reads a field of a choice: what is written, or what stands for a field that is left out. -/
theorem fieldOr_eq_some_iff {β : Type} (fallback b : β) {read : Value → Option β}
    {write : β → Value} (reads : ∀ v, read v = some b ↔ v = write b) (members : Members)
    (name : String) :
    Json.fieldOr fallback read members name = some b ↔
      members.lookup name = some (write b) ∨ members.lookup name = none ∧ b = fallback := by
  unfold Json.fieldOr
  cases members.lookup name with
  | none => simp [eq_comm]
  | some v => simp [reads]

/-- What is read as a choice is what spells it. -/
theorem ofJson?_eq_some_iff {v : Value} {c : Choice} : ofJson? v = some c ↔ Spells v c := by
  have keywordsIn (members : Members) :=
    fieldOr_eq_some_iff [] c.keywords (fun _ => Value.texts?_eq_some_iff) members "keywords"
  have disabledIn (members : Members) :=
    fieldOr_eq_some_iff false c.disabled (fun _ => Value.flag?_eq_some_iff) members "disabled"
  constructor
  · intro read
    cases v with
    | string label =>
      obtain rfl := Option.some.inj read
      exact .label label
    | object members =>
      simp only [ofJson?] at read
      split at read
      · rename_i once
        obtain ⟨label, labelled, read⟩ := Option.bind_eq_some_iff.mp read
        obtain ⟨key, keyed, read⟩ := Option.bind_eq_some_iff.mp read
        obtain ⟨keywords, described, read⟩ := Option.bind_eq_some_iff.mp read
        obtain ⟨disabled, marked, read⟩ := Option.bind_eq_some_iff.mp read
        obtain rfl := Option.some.inj read
        obtain ⟨v, there, text⟩ := Option.bind_eq_some_iff.mp labelled
        obtain rfl := Value.text?_eq_some_iff.mp text
        exact .object once there (keyOr_eq_some_iff.mp keyed) ((keywordsIn members).mp described)
          ((disabledIn members).mp marked)
      · cases read
    | _ => cases read
  · rintro (⟨label⟩ | ⟨once, label, key, keywords, disabled⟩)
    · rfl
    · rename_i members
      simp only [ofJson?]
      rw [if_pos once, label]
      refine Option.bind_eq_some_iff.mpr ⟨c.label, rfl, ?_⟩
      refine Option.bind_eq_some_iff.mpr ⟨c.key, keyOr_eq_some_iff.mpr key, ?_⟩
      refine Option.bind_eq_some_iff.mpr ⟨c.keywords, (keywordsIn members).mpr keywords, ?_⟩
      exact Option.bind_eq_some_iff.mpr ⟨c.disabled, (disabledIn members).mpr disabled, rfl⟩

end Choice

namespace Listing

open Choice (MemberOrder TextForm)

/-! ## Dropping repeated keys -/

/-- Dropping repeated keys leaves a part of the list in its order. -/
theorem dropRepeats_sublist (seen : List String) (choices : List Choice) :
    (dropRepeats seen choices).Sublist choices := by
  induction choices generalizing seen with
  | nil => exact .slnil
  | cons c rest ih =>
    unfold dropRepeats
    split
    · exact (ih seen).cons c
    · exact (ih _).cons_cons c

/-- A key that has not been seen is there with its first choice. -/
theorem find?_dropRepeats (seen : List String) (choices : List Choice) (key : String) :
    (dropRepeats seen choices).find? (·.key == key) =
      if key ∈ seen then none else choices.find? (·.key == key) := by
  induction choices generalizing seen with
  | nil => simp [dropRepeats]
  | cons c rest ih =>
    unfold dropRepeats
    by_cases here : c.key = key
    · subst here
      by_cases known : c.key ∈ seen
      · simp [known, ih]
      · simp [known]
    · by_cases known : c.key ∈ seen
      · simp [known, here, ih]
      · simp [known, here, ih, Ne.symm here]

/-- No key is there twice, and none that has been seen. -/
theorem dropRepeats_distinct (seen : List String) (choices : List Choice) :
    ((dropRepeats seen choices).map Choice.key).Nodup := by
  induction choices generalizing seen with
  | nil => exact .nil
  | cons c rest ih =>
    unfold dropRepeats
    split
    · exact ih seen
    · refine List.nodup_cons.mpr ⟨?_, ih _⟩
      intro again
      obtain ⟨other, among, same⟩ := List.mem_map.mp again
      have gone := find?_dropRepeats (c.key :: seen) rest c.key
      rw [if_pos List.mem_cons_self, List.find?_eq_none] at gone
      exact gone other among (beq_iff_eq.mpr same)

/-- Where no key is there twice nothing is dropped. -/
theorem dropRepeats_of_distinct {seen : List String} {choices : List Choice}
    (distinct : (seen ++ choices.map Choice.key).Nodup) : dropRepeats seen choices = choices := by
  induction choices generalizing seen with
  | nil => rfl
  | cons c rest ih =>
    rw [List.map_cons, List.nodup_middle] at distinct
    have unseen : c.key ∉ seen := fun known =>
      (List.nodup_cons.mp distinct).1 (List.mem_append_left _ known)
    rw [dropRepeats, if_neg (by simpa using unseen), ih distinct]

/-! ## What a text lists -/

/-- The choices that a text lists, in order and with repeated keys: those that the items of a JSON
array spell, or one for every line that is not blank, labelled by the trimmed line. -/
inductive Lists (text : List Char) : List Choice → Prop where
  | array {items : List Json.Value} {choices : List Choice} (starts : looksLikeArray text = true)
    (read : Json.parse? text = some (.array items))
    (keepable : (Json.Value.array items).isKeepable = true)
    (spelled : List.Forall₂ Choice.Spells items choices) : Lists text choices
  | lines {lines : List (List Char)} (starts : looksLikeArray text = false)
    (split : Text.SplitsInto text lines) :
    Lists text <| (lines.filter fun line => !line.all Unicode.isWhiteSpace).map fun line =>
      Choice.ofLabel (String.ofList (Unicode.trim line))

/-- A text is read as a list just when it is a JSON array each item of which spells a choice. -/
theorem parseList?_eq_some_iff {text : List Char} {choices : List Choice} :
    Choice.parseList? text = some choices ↔ ∃ items, Json.parse? text = some (.array items) ∧
      (Json.Value.array items).isKeepable = true ∧ List.Forall₂ Choice.Spells items choices := by
  have spelled (items : List Json.Value) :
      items.mapM Choice.ofJson? = some choices ↔ List.Forall₂ Choice.Spells items choices := by
    simp only [mapM_eq_some_iff, Choice.ofJson?_eq_some_iff]
  unfold Choice.parseList?
  constructor
  · intro read
    split at read
    · rename_i v parsed
      split at read
      · rename_i items
        split at read
        · rename_i keepable
          exact ⟨items, parsed, keepable, (spelled items).mp read⟩
        · cases read
      · cases read
    · cases read
  · rintro ⟨items, parsed, keepable, each⟩
    rw [parsed]
    exact (if_pos keepable).trans ((spelled items).mpr each)

/-- Plain text is read line by line: the lines that are not blank, without the blank space around
them. -/
theorem ofLines_eq (text : List Char) :
    ofLines text = ((Text.lines text).filter fun line => !line.all Unicode.isWhiteSpace).map
      fun line => Choice.ofLabel (String.ofList (Unicode.trim line)) := by
  have filled (line : List Char) :
      (!(Unicode.trim line).isEmpty) = !line.all Unicode.isWhiteSpace := by
    rw [Bool.not_inj_iff, Bool.eq_iff_iff, List.isEmpty_iff, Unicode.trim_eq_nil_iff]
  unfold ofLines
  rw [List.filter_map, List.map_map]
  congr 1
  exact List.filter_congr fun line _ => filled line

/-- A text is loaded if it lists choices, and then the first choice of each key is kept. -/
theorem parse_eq_ok_iff {origin text : String} {result : List Choice} :
    parse origin text = .ok result ↔
      ∃ listed, Lists text.toList listed ∧ result = firstOfEachKey listed := by
  simp only [← dropRepeats_nil]
  unfold parse
  dsimp only
  cases starts : looksLikeArray text.toList with
  | true =>
    rw [if_pos rfl]
    constructor
    · intro loaded
      split at loaded
      · rename_i choices read
        obtain ⟨items, parsed, keepable, spelled⟩ := parseList?_eq_some_iff.mp read
        exact ⟨choices, .array starts parsed keepable spelled, (Except.ok.inj loaded).symm⟩
      · cases loaded
    · rintro ⟨listed, ⟨-, parsed, keepable, spelled⟩ | ⟨plain, -⟩, rfl⟩
      · rw [parseList?_eq_some_iff.mpr ⟨_, parsed, keepable, spelled⟩]
      · rw [starts] at plain
        cases plain
  | false =>
    rw [if_neg Bool.false_ne_true, ofLines_eq]
    constructor
    · intro loaded
      refine ⟨_, .lines starts (Text.splitsInto_iff.mpr rfl), (Except.ok.inj loaded).symm⟩
    · rintro ⟨listed, ⟨array, -⟩ | ⟨-, split⟩, rfl⟩
      · rw [starts] at array
        cases array
      · rw [Text.splitsInto_iff.mp split]

/-- **Loading keeps the first choice of each key and nothing else is lost.** A text is loaded if and
only if it lists choices, as a JSON array or line by line. The result is what it lists without the
choices whose key an earlier one has: the order is kept, no key is there twice, and every key that
is listed is there with its first choice. Written as a JSON array in any form, the result is loaded
as it is. -/
theorem loading_keeps_first_of_each_key (origin text : String) :
    ((∃ result, parse origin text = .ok result) ↔ ∃ listed, Lists text.toList listed) ∧
    ∀ result, parse origin text = .ok result → ∃ listed, Lists text.toList listed ∧
      result = firstOfEachKey listed ∧ result.Sublist listed ∧
      (result.map Choice.key).Nodup ∧
      (∀ key, result.find? (·.key == key) = listed.find? (·.key == key)) ∧
      ∀ (order : MemberOrder) (form : TextForm) (again : String),
        parse again (String.ofList (form.write (.array (result.map order.encode)))) =
          .ok result := by
  constructor
  · simp only [parse_eq_ok_iff]
    constructor
    · rintro ⟨result, listed, lists, -⟩
      exact ⟨listed, lists⟩
    · rintro ⟨listed, lists⟩
      exact ⟨_, listed, lists, rfl⟩
  · intro result loaded
    obtain ⟨listed, lists, rfl⟩ := parse_eq_ok_iff.mp loaded
    rw [← dropRepeats_nil]
    refine ⟨listed, lists, dropRepeats_nil listed, dropRepeats_sublist [] listed,
      dropRepeats_distinct [] listed, ?_, ?_⟩
    · intro key
      simpa using find?_dropRepeats [] listed key
    · intro order form again
      have read := parse_encode order form (dropRepeats [] listed) (List.forall_mem_nil _) again
      have whole : dropRepeats [] (dropRepeats [] listed) = dropRepeats [] listed :=
        dropRepeats_of_distinct (dropRepeats_distinct [] listed)
      rwa [List.append_nil, ← dropRepeats_nil, whole] at read

/-- The second item is dropped for the key of the first, and the last one for the label of the
third, which has no key of its own. -/
theorem loading_keeps_first_of_each_key_mixed :
    let text :=
      "[\x7b\"key\": \"b\", \"label\": \"Berry\"\x7d, \"b\", \x7b\"label\": \"a\"\x7d, \"a\"]"
    let result : List Choice := [{ key := "b", label := "Berry" }, .ofLabel "a"]
    parse "input" text = .ok result ∧ (result.map Choice.key).Nodup ∧
      ∃ listed, Lists text.toList listed ∧ result.Sublist listed ∧
        listed.find? (·.key == "b") = some { key := "b", label := "Berry" } := by
  intro text result
  have loaded : parse "input" text = .ok result := by decide +kernel
  obtain ⟨-, kept⟩ := loading_keeps_first_of_each_key "input" text
  obtain ⟨listed, lists, -, inside, distinct, first, -⟩ := kept result loaded
  exact ⟨loaded, distinct, listed, lists, inside, (first "b").symm.trans rfl⟩

end Listing

end Picklist
