import Picklist.Listing
import Picklist.Proofs.Json.RoundTrip
import Picklist.Report

/-!
# Choices survive being written and read

A choice is written without its empty parts, and reading fills these in as they were. So a choice is
the same after it was written, whatever texts it is made of; and of a list of choices that is
written and read again only those are missing whose key an earlier one has.
-/

set_option autoImplicit false

namespace Picklist

open Json (Value Layout)

namespace Choice

/-! ## Single choices -/

/-- The orders in which the members of a choice are written. -/
inductive MemberOrder where
  | declared
  | alphabetical
  deriving Repr, DecidableEq, Inhabited

/-- A choice as a JSON object with its members in the given order. -/
def MemberOrder.encode : MemberOrder → Choice → Value
  | .declared => toJson
  | .alphabetical => toSortedJson

/-- An array of texts is read as these texts. -/
theorem texts?_ofTexts (texts : List String) :
    Value.texts? (Json.ofTexts texts) = some texts := by
  unfold Json.ofTexts Value.texts?
  dsimp only
  induction texts with
  | nil => rfl
  | cons text rest ih => simp [ih, Value.text?]

/-- What was left out is filled in again. -/
theorem ofJson?_encode (order : MemberOrder) (c : Choice) : ofJson? (order.encode c) = some c := by
  obtain ⟨key, label, keywords, disabled⟩ := c
  have texts := texts?_ofTexts keywords
  cases order <;> cases keywords <;> cases disabled <;>
    simp [MemberOrder.encode, toJson, toSortedJson, keywordMember, disabledMember, ofJson?,
      Json.eachOnce, fieldNames, keyOr, Json.fieldOr, Value.text?, Value.flag?, texts,
      List.lookup_cons]

/-- Texts are sound values of depth zero. -/
theorem items_texts (texts : List String) :
    Json.itemsTextual (texts.map Value.string) = true ∧
      Json.itemsSound (texts.map Value.string) = true ∧
      Json.itemsDepth (texts.map Value.string) = 0 := by
  induction texts with
  | nil => exact ⟨rfl, rfl, rfl⟩
  | cons text rest ih =>
    obtain ⟨textual, sound, flat⟩ := ih
    refine ⟨textual, sound, ?_⟩
    rw [List.map_cons, Json.itemsDepth, flat]
    rfl

/-- The object of a choice is made of texts and truth values, and not nested deeply. -/
theorem encode_plain (order : MemberOrder) (c : Choice) :
    (order.encode c).isTextual = true ∧ (order.encode c).isSound = true ∧
      (order.encode c).depth ≤ 2 := by
  obtain ⟨key, label, keywords, disabled⟩ := c
  obtain ⟨textual, sound, flat⟩ := items_texts keywords
  cases order <;> cases keywords <;> cases disabled <;>
    simp_all [MemberOrder.encode, toJson, toSortedJson, keywordMember, disabledMember,
      Json.ofTexts, Value.isTextual, Json.membersTextual, Value.isSound, Json.membersSound,
      Value.depth, Json.membersDepth]

/-! ## Texts -/

/-- The forms of JSON texts. -/
inductive TextForm where
  | compact
  /-- Every item and member on a line of its own, indented from the given level on. -/
  | indented (level : Nat)
  deriving Repr, DecidableEq, Inhabited

namespace TextForm

/-- A value in the given form. -/
def write : TextForm → Value → List Char
  | .compact, v => v.compact
  | .indented level, v => v.pretty level

/-- A value in either form is read back. -/
theorem parse?_write (form : TextForm) {v : Value} (textual : v.isTextual = true)
    {tail : List Char} (blank : Json.IsBlank tail) :
    Json.parse? (form.write v ++ tail) = some v := by
  cases form with
  | compact =>
    show Json.parse? (v.compact ++ tail) = some v
    rw [← Json.write_compact 0 v]
    exact Json.parse?_write .compact textual 0 blank
  | indented level =>
    show Json.parse? (v.pretty level ++ tail) = some v
    rw [← Json.write_pretty level v]
    exact Json.parse?_write .pretty textual level blank

/-- The text of an array starts with its bracket. -/
theorem head?_write_array (form : TextForm) (items : List Value) (tail : List Char) :
    (form.write (.array items) ++ tail).head? = some '[' := by
  cases form <;> cases items <;> simp [write, Value.compact, Value.pretty]

end TextForm

/-- A written choice is read as it was. -/
theorem parse?_encode (order : MemberOrder) (form : TextForm) (c : Choice) :
    parse? (String.ofList (form.write (order.encode c))) = some c := by
  obtain ⟨textual, sound, shallow⟩ := encode_plain order c
  have read := form.parse?_write textual (List.forall_mem_nil _)
  have keepable : (order.encode c).isKeepable = true := by
    have deep : (order.encode c).depth ≤ Json.depthLimit := Nat.le_trans shallow (by decide)
    simp [Value.isKeepable, deep, sound]
  rw [List.append_nil] at read
  unfold parse?
  rw [String.toList_ofList, read]
  exact (if_pos keepable).trans (ofJson?_encode order c)

/-! ## Lists -/

/-- The objects of choices are sound and flat, and each is read as its choice. -/
theorem items_encode (order : MemberOrder) (choices : List Choice) :
    Json.itemsTextual (choices.map order.encode) = true ∧
      Json.itemsSound (choices.map order.encode) = true ∧
      Json.itemsDepth (choices.map order.encode) ≤ 2 ∧
      (choices.map order.encode).mapM ofJson? = some choices := by
  induction choices with
  | nil => exact ⟨rfl, rfl, Nat.zero_le 2, rfl⟩
  | cons c rest ih =>
    obtain ⟨textual, sound, shallow, read⟩ := ih
    obtain ⟨own, ownSound, ownShallow⟩ := encode_plain order c
    refine ⟨?_, ?_, ?_, ?_⟩
    · simp [Json.itemsTextual, own, textual]
    · simp [Json.itemsSound, ownSound, sound]
    · exact Nat.max_le.mpr ⟨ownShallow, shallow⟩
    · simp [ofJson?_encode, read]

/-- A written list of choices is read as it was. -/
theorem parseList?_encode (order : MemberOrder) (form : TextForm) (choices : List Choice)
    {tail : List Char} (blank : Json.IsBlank tail) :
    parseList? (form.write (.array (choices.map order.encode)) ++ tail) = some choices := by
  obtain ⟨textual, sound, shallow, items⟩ := items_encode order choices
  have read := form.parse?_write (v := .array (choices.map order.encode)) textual blank
  have keepable : (Value.array (choices.map order.encode)).isKeepable = true := by
    have deep : Json.itemsDepth (choices.map order.encode) + 1 ≤ Json.depthLimit :=
      Nat.le_trans (Nat.succ_le_succ shallow) (by decide)
    simp [Value.isKeepable, Value.depth, Value.isSound, deep, sound]
  unfold parseList?
  rw [read]
  exact (if_pos keepable).trans items

end Choice

namespace Listing

open Choice (MemberOrder TextForm)

/-- The choices whose key no choice before them has. -/
def firstOfEachKey (choices : List Choice) : List Choice :=
  (choices.zipIdx.filter fun (c, index) => (choices.take index).all (·.key != c.key)).map Prod.fst

/-- Reading keeps the choices whose key has not been seen, neither before the list nor in it. -/
theorem dropRepeats_eq (seen : List String) (choices : List Choice) :
    dropRepeats seen choices =
      (choices.zipIdx.filter fun (c, index) =>
        !seen.contains c.key && (choices.take index).all (·.key != c.key)).map Prod.fst := by
  induction choices generalizing seen with
  | nil => rfl
  | cons first rest ih =>
    -- behind the first choice its key counts as seen
    have later : ((rest.zipIdx 1).filter fun (c, index) =>
          !seen.contains c.key && ((first :: rest).take index).all (·.key != c.key)).map Prod.fst =
        dropRepeats (first.key :: seen) rest := by
      rw [ih, List.zipIdx_succ, List.filter_map, List.map_map]
      congr 1
      apply List.filter_congr
      rintro ⟨c, index⟩ -
      show (!seen.contains c.key && ((first :: rest).take (index + 1)).all (·.key != c.key)) =
        (!(first.key :: seen).contains c.key && (rest.take index).all (·.key != c.key))
      rw [List.take_succ_cons, List.all_cons, List.contains_cons, Bool.not_or, bne,
        BEq.comm (a := c.key), Bool.and_assoc, Bool.and_left_comm]
    rw [List.zipIdx_cons, List.filter_cons, dropRepeats]
    simp only [List.take_zero, List.all_nil, Bool.and_true]
    cases known : seen.contains first.key with
    | true =>
      have same : dropRepeats (first.key :: seen) rest = dropRepeats seen rest := by
        rw [ih, ih]
        congr 1
        apply List.filter_congr
        rintro ⟨c, index⟩ -
        have keys : (first.key :: seen).contains c.key = seen.contains c.key := by
          rw [List.contains_cons]
          cases other : c.key == first.key with
          | false => exact Bool.false_or _
          | true => rw [eq_of_beq other, known, Bool.true_or]
        dsimp only
        rw [keys]
      rw [← same, ← later]
      rfl
    | false =>
      rw [← later]
      rfl

/-- Of choices with one key only the first is kept. -/
theorem dropRepeats_nil (choices : List Choice) :
    dropRepeats [] choices = firstOfEachKey choices :=
  dropRepeats_eq [] choices

/-- A text that starts with a bracket looks like an array. -/
theorem looksLikeArray_of_head? {text : List Char} (head : text.head? = some '[') :
    looksLikeArray text = true := by
  obtain ⟨rest, rfl⟩ := List.head?_eq_some_iff.mp head
  rfl

/-- A written list is read without the choices whose key an earlier one has. -/
theorem parse_encode (order : MemberOrder) (form : TextForm) (choices : List Choice)
    {tail : List Char} (blank : Json.IsBlank tail) (origin : String) :
    parse origin (String.ofList (form.write (.array (choices.map order.encode)) ++ tail)) =
      .ok (firstOfEachKey choices) := by
  have array := looksLikeArray_of_head? (form.head?_write_array (choices.map order.encode) tail)
  have read := Choice.parseList?_encode order form choices blank
  unfold parse
  rw [String.toList_ofList]
  dsimp only
  rw [if_pos array, read, ← dropRepeats_nil]

/-- **Choices survive being written and read.** Whatever texts a choice is made of, it is read back
from its JSON text as it was, in any order of its members and with or without blank space. A list of
choices is read back without those whose key an earlier one has, also when it is the document of a
report. -/
theorem choices_survive_json (order : MemberOrder) (form : TextForm) :
    (∀ c, Choice.parse? (String.ofList (form.write (order.encode c))) = some c) ∧
    (∀ choices origin,
      parse origin (String.ofList (form.write (.array (choices.map order.encode)))) =
        .ok (firstOfEachKey choices)) ∧
    ∀ choices origin, parse origin (Report.document (Report.choiceArray choices)) =
      .ok (firstOfEachKey choices) := by
  refine ⟨Choice.parse?_encode order form, fun choices origin => ?_, fun choices origin => ?_⟩
  · have read := parse_encode order form choices (List.forall_mem_nil _) origin
    rwa [List.append_nil] at read
  · have blank : Json.IsBlank ['\n'] := by
      intro c inside
      rw [List.mem_singleton.mp inside]
      rfl
    exact parse_encode .alphabetical (.indented 0) choices blank origin

end Listing

end Picklist
