import Picklist.Proofs.Pattern.Literal
import Picklist.Select.Expression

/-!
# A query matches the texts that contain it

Without a hook a query is escaped and read as a pattern. Of the reader of patterns only one thing is
asked: that an escaped text is read as the pattern of its characters. A hook's text that is no
pattern for the reader leads to the same pattern. So a query that is typed puts a constraint on
texts: they have to contain it, up to case.
-/

set_option autoImplicit false

namespace Picklist.Select.Expression

open Pattern Unicode

variable {query : String} {read : Pattern.Reader}

/-! ## Compiling a query -/

/-- A reader that reads escaped texts as their characters does so with an escaped query. -/
theorem read_escapeString (literal : ∀ cs, read (escape cs) = some (ofLiteral cs))
    (query : String) : read (escapeString query).toList = some (ofLiteral query.toList) := by
  rw [escapeString, String.toList_ofList, literal]

/-- Where no hook writes a pattern, a query is compiled to the pattern of its characters. -/
theorem compile_of_no_pattern (literal : ∀ cs, read (escape cs) = some (ofLiteral cs))
    (typed : query ≠ "") {hook : Option (String → String)}
    (invalid : ∀ write, hook = some write → read (write query).toList = none) :
    compile query hook read = { pattern := some (ofLiteral query.toList) } := by
  have notEmpty : query.isEmpty = false := by
    rw [Bool.eq_false_iff, ne_eq, String.isEmpty_iff]
    exact typed
  have plain := read_escapeString literal query
  unfold compile
  rw [notEmpty]
  cases hook with
  | none => simp [plain]
  | some write => simp [plain, invalid write rfl]

/-- Whatever the hook, only an empty query puts no constraint on texts. -/
theorem isEmpty_compile_iff (literal : ∀ cs, read (escape cs) = some (ofLiteral cs))
    (query : String) (hook : Option (String → String)) :
    (compile query hook read).isEmpty = true ↔ query = "" := by
  unfold compile
  cases empty : query.isEmpty with
  | true => exact ⟨fun _ => String.isEmpty_iff.mp empty, fun _ => rfl⟩
  | false =>
    have typed : query ≠ "" := by
      rintro rfl
      cases empty
    simp [isEmpty, read_escapeString literal query, typed]

/-- Without a hook a query is compiled to the pattern of its characters. -/
theorem compile_none (literal : ∀ cs, read (escape cs) = some (ofLiteral cs)) (typed : query ≠ "") :
    compile query none read = { pattern := some (ofLiteral query.toList) } := by
  apply compile_of_no_pattern literal typed
  intro write given
  cases given

/-- A hook whose text is no pattern is as good as none. -/
theorem compile_of_invalid (literal : ∀ cs, read (escape cs) = some (ofLiteral cs))
    {hook : Option (String → String)}
    (invalid : ∀ write, hook = some write → read (write query).toList = none) :
    compile query hook read = compile query none read := by
  by_cases typed : query = ""
  · rw [typed]
    rfl
  · rw [compile_of_no_pattern literal typed invalid, compile_none literal typed]

/-! ## What a query finds -/

/-- The byte ranges of the occurrences are determined by the text. -/
theorem matchRanges_ofLiteral_iff (typed : query ≠ "") (text : String)
    (ranges : List (Nat × Nat)) :
    matchRanges { pattern := some (ofLiteral query.toList) } text = ranges ↔
      ∃ spans, Greedy query.toList text.toList 0 spans ∧
        ranges = spans.map (·.toBytes text.toList) := by
  have letters : query.toList ≠ [] := by
    rwa [ne_eq, String.toList_eq_nil_iff]
  have found := greedy_spans letters text.toList
  constructor
  · rintro rfl
    exact ⟨_, found, rfl⟩
  · rintro ⟨spans, greedy, rfl⟩
    rw [greedy.unique found]
    rfl

/-- **Default matching is containment.** Let a reader of patterns read every escaped text as the
pattern of its characters. Then, whatever the hook, only an empty query compiles to an expression
without constraint, and a hook whose text is no pattern for the reader makes no difference. Without
a hook, a query that is not empty matches a text if and only if some part of the text equals it
character by character up to case, and the ranges of its matches are those of the occurrences that
are found from left to right, each one behind the one before. -/
theorem default_matching_is_containment (read : Pattern.Reader)
    (literal : ∀ cs, read (escape cs) = some (ofLiteral cs)) (query : String)
    (hook : Option (String → String)) :
    ((compile query hook read).isEmpty = true ↔ query = "") ∧
      ((∀ write, hook = some write → read (write query).toList = none) →
        compile query hook read = compile query none read) ∧
      (query ≠ "" → ∀ text : String,
        ((compile query none read).matchesText text.toList = true ↔
          ∃ before found after, text.toList = before ++ found ++ after ∧
            found.map foldCase = query.toList.map foldCase) ∧
          ∀ ranges, (compile query none read).matchRanges text = ranges ↔
            ∃ spans, Greedy query.toList text.toList 0 spans ∧
              ranges = spans.map (·.toBytes text.toList)) := by
  refine ⟨isEmpty_compile_iff literal query hook, compile_of_invalid literal, fun typed text => ?_⟩
  rw [compile_none literal typed]
  exact ⟨matchesIn_ofLiteral_iff query.toList text.toList, matchRanges_ofLiteral_iff typed text⟩

/-- The reader is that of the common notation, and the hook writes an open group. The query has a
plus sign, and the text a Kelvin sign. -/
theorem default_matching_is_containment_plus :
    let e := compile "k+" (some fun _ => "(")
    let text := "1\u212a+K+"
    (∀ cs, ofText? (escape cs) = some (ofLiteral cs)) ∧ ofText? ['('] = none ∧
      e.isEmpty = false ∧ e.matchesText text.toList = true ∧
      ∃ spans, Greedy "k+".toList text.toList 0 spans ∧
        [(1, 5), (5, 7)] = spans.map (·.toBytes text.toList) := by
  intro e text
  obtain ⟨unconstrained, fallback, contains⟩ :=
    default_matching_is_containment ofText? ofText?_escape "k+" (some fun _ => "(")
  have open_group : ofText? ['('] = none := by decide +kernel
  have invalid (write : String → String) (given : some (fun _ => "(") = some write) :
      ofText? (write "k+").toList = none := by
    rw [← Option.some.inj given]
    exact open_group
  have same : e = compile "k+" none := fallback invalid
  obtain ⟨matched, ranges⟩ := contains (by decide) text
  refine ⟨ofText?_escape, open_group, ?_, ?_, (ranges [(1, 5), (5, 7)]).mp (by decide +kernel)⟩
  · rw [Bool.eq_false_iff, ne_eq, unconstrained]
    decide
  · rw [same]
    exact matched.mpr ⟨['1'], ['\u212a', '+'], ['K', '+'], by decide +kernel, by decide +kernel⟩

end Picklist.Select.Expression
