import Picklist.Proofs.Pattern.Spans
import Picklist.Proofs.Select.Origins

/-!
# Highlighting agrees with filtering

A label is filtered by its folded text and highlighted where the matches in that text came from.
Folding with a record of origins spells the text that the filter looks at, and every match in it has
an origin. So a label has one highlighted stretch for each match that is not empty.
-/

set_option autoImplicit false

namespace Picklist.Select

open Text

/-! ## From folded text to label -/

namespace Origin

variable {origins : List Origin} {bound : Nat} {span : Span}

/-- A stretch of the folded text has a source, from its first character to its last. -/
theorem sourceSpan?_eq {first last : Origin} (atStart : origins[span.start]? = some first)
    (atStop : origins[span.stop - 1]? = some last) :
    sourceSpan? origins span = some ⟨first.source.start, last.source.stop⟩ := by
  simp [sourceSpan?, atStart, atStop]

/-- The source of a stretch that is not empty lies inside the label and is not empty. -/
theorem Traced.exists_sourceSpan (h : Traced bound origins) (filled : span.start < span.stop)
    (inside : span.stop ≤ origins.length) :
    ∃ source, sourceSpan? origins span = some source ∧ source.start < source.stop ∧
      source.stop ≤ bound := by
  have first : span.start < origins.length := by omega
  have last : span.stop - 1 < origins.length := by omega
  refine ⟨_, sourceSpan?_eq (List.getElem?_eq_getElem first) (List.getElem?_eq_getElem last),
    ?_, ?_⟩
  · have ascending :
        (origins[span.start]).source.start ≤ (origins[span.stop - 1]).source.start := by
      rcases Nat.eq_or_lt_of_le (Nat.le_sub_one_of_lt filled) with same | before
      · simp only [same, Nat.le_refl]
      · exact List.pairwise_iff_getElem.mp h.ascending _ _ first last before
    have bounds := h.inside _ (List.getElem_mem last)
    dsimp only
    omega
  · exact (h.inside _ (List.getElem_mem last)).2

/-- Stretches one behind the other have sources one behind the other where origins do not
overlap. -/
theorem Separate.sourceSpan (separate : Separate origins) {other source source' : Span}
    (filled : span.start < span.stop) (behind : span.stop ≤ other.start)
    (h : sourceSpan? origins span = some source) (h' : sourceSpan? origins other = some source') :
    source.stop ≤ source'.start := by
  simp only [sourceSpan?, Option.bind_eq_bind, Option.bind_eq_some_iff] at h h'
  obtain ⟨_, -, last, atStop, found⟩ := h
  obtain ⟨first, atStart, _, -, found'⟩ := h'
  obtain rfl := Option.some.inj found
  obtain rfl := Option.some.inj found'
  obtain ⟨insideStop, rfl⟩ := List.getElem?_eq_some_iff.mp atStop
  obtain ⟨insideStart, rfl⟩ := List.getElem?_eq_some_iff.mp atStart
  exact List.pairwise_iff_getElem.mp separate _ _ insideStop insideStart (by omega)

end Origin

namespace Expression

variable (e : Expression)

/-- The spans of an expression lie in the text, each behind the one before. -/
theorem spans_apart (cs : List Char) : Apart cs.length 0 (e.spans cs) := by
  unfold spans
  split
  · exact Pattern.spans_apart _ cs
  · trivial

/-- The highlighted stretches are those of the matches, or come from matches in the folded text. -/
theorem labelSpans_eq (fold : Bool) (cs : List Char) :
    (e.labelSpans fold cs = e.spans cs ∧ normalize fold cs = cs) ∨
      (e.labelSpans fold cs =
          (e.spans (normalize fold cs)).filterMap (Origin.sourceSpan? (Origin.ofText cs)) ∧
        normalize fold cs = stripMarks cs) := by
  unfold labelSpans Text.normalize
  cases fold with
  | false => exact .inl ⟨rfl, rfl⟩
  | true =>
    cases ascii : isAscii cs with
    | true => exact .inl ⟨rfl, rfl⟩
    | false =>
      right
      simp [Origin.map_char_ofText]

/-- Every match in the folded text has a source in the label. -/
theorem exists_source {cs : List Char} {span : Span} (member : span ∈ e.spans (stripMarks cs)) :
    ∃ source, Origin.sourceSpan? (Origin.ofText cs) span = some source ∧
      source.start < source.stop ∧ source.stop ≤ cs.length := by
  obtain ⟨-, filled, inside⟩ := (Apart.iff_pairwise.mp (e.spans_apart _)).1 span member
  rw [← Origin.map_char_ofText, List.length_map] at inside
  exact (Origin.traced_ofText cs).exists_sourceSpan filled inside

/-- A label has as many marked stretches as its normal form has matches. -/
theorem length_labelSpans (fold : Bool) (cs : List Char) :
    (e.labelSpans fold cs).length = (e.spans (normalize fold cs)).length := by
  rcases e.labelSpans_eq fold cs with ⟨plain, same⟩ | ⟨folded, same⟩
  · rw [plain, same]
  · rw [folded, List.filterMap_length_eq_length]
    intro span member
    rw [same] at member
    obtain ⟨source, found, -⟩ := e.exists_source member
    rw [found, Option.isSome_some]

/-- Highlighted stretches are not empty and lie inside the label. -/
theorem labelSpans_inside {fold : Bool} {cs : List Char} {span : Span}
    (member : span ∈ e.labelSpans fold cs) : span.start < span.stop ∧ span.stop ≤ cs.length := by
  rcases e.labelSpans_eq fold cs with ⟨plain, -⟩ | ⟨folded, same⟩
  · rw [plain] at member
    exact ((Apart.iff_pairwise.mp (e.spans_apart _)).1 span member).2
  · rw [folded, same] at member
    obtain ⟨matched, among, found⟩ := List.mem_filterMap.mp member
    obtain ⟨source, found', bounds⟩ := e.exists_source among
    obtain rfl : source = span := Option.some.inj (found'.symm.trans found)
    exact bounds

/-- Highlighted stretches do not overlap where no character of the label folds to several. -/
theorem labelSpans_pairwise {fold : Bool} {cs : List Char}
    (single : fold = false ∨ ∀ c ∈ cs, (stripMarks [c]).length ≤ 1) :
    (e.labelSpans fold cs).Pairwise fun s t => s.stop ≤ t.start := by
  have plain : (e.spans cs).Pairwise fun s t => s.stop ≤ t.start :=
    (Apart.iff_pairwise.mp (e.spans_apart cs)).2
  rcases single with rfl | single
  · exact plain
  · rcases e.labelSpans_eq fold cs with ⟨unfolded, -⟩ | ⟨folded, same⟩
    · rw [unfolded]
      exact plain
    · obtain ⟨bounds, pairs⟩ := Apart.iff_pairwise.mp (e.spans_apart (normalize fold cs))
      rw [folded, List.pairwise_filterMap]
      refine pairs.imp_of_mem fun {s t} member _ behind source found source' found' => ?_
      exact (Origin.separate_ofText single).sourceSpan (bounds s member).2.1 behind found found'

/-! ## One highlighted stretch for each match -/

/-- An expression has spans where its pattern has a match that is not empty. -/
theorem spans_ne_nil_iff (cs : List Char) :
    e.spans cs ≠ [] ↔ ∃ pattern, e.pattern = some pattern ∧ pattern.HasMatch cs := by
  unfold spans
  split
  · rename_i pattern given
    simp [given, Pattern.spans_ne_nil_iff]
  · rename_i none
    simp [none]

/-- A text has as many byte ranges as matches. -/
theorem length_matchRanges (text : String) :
    (e.matchRanges text).length = (e.spans text.toList).length :=
  List.length_map _

/-- A label has as many byte ranges as its normal form has matches. -/
theorem length_labelRanges (fold : Bool) (label : String) :
    (e.labelRanges fold label).length = (e.spans (normalize fold label.toList)).length := by
  rw [labelRanges, List.length_map, length_labelSpans]

/-- A label has byte ranges where its normal form has a match that is not empty. -/
theorem labelRanges_ne_nil_iff (fold : Bool) (label : String) :
    e.labelRanges fold label ≠ [] ↔
      ∃ pattern, e.pattern = some pattern ∧ pattern.HasMatch (normalize fold label.toList) := by
  rw [← spans_ne_nil_iff, ← List.length_pos_iff, ← List.length_pos_iff, length_labelRanges]

/-- A choice with a highlighted label passes the filter. -/
theorem matchesChoice_of_labelRanges {fold : Bool} {choice : Choice}
    (highlighted : e.labelRanges fold choice.label ≠ []) : e.matchesChoice fold choice = true := by
  obtain ⟨pattern, given, found⟩ := (e.labelRanges_ne_nil_iff fold choice.label).mp highlighted
  have label : e.matchesText (normalize fold choice.label.toList) = true := by
    rw [matchesText, given]
    exact found.matchesIn
  simp [matchesChoice, Choice.texts, label]

/-- **Highlighting agrees with filtering.** Whatever the expression, a label has as many highlighted
stretches as there are matches in the text that it is filtered by, for recording origins spells the
folded text. It is highlighted if and only if the expression has a match in that text that is not
empty, and then it passes the filter. -/
theorem highlighting_agrees_with_filtering (fold : Bool) (choice : Choice) :
    (e.labelRanges fold choice.label).length =
        (e.matchRanges (normalizeString fold choice.label)).length ∧
      (Origin.ofText choice.label.toList).map Origin.char = normalize true choice.label.toList ∧
      (e.labelRanges fold choice.label ≠ [] ↔
        ∃ pattern, e.pattern = some pattern ∧
          pattern.HasMatch (normalize fold choice.label.toList)) ∧
      (e.labelRanges fold choice.label ≠ [] → e.matchesChoice fold choice = true) := by
  refine ⟨?_, ?_, e.labelRanges_ne_nil_iff fold choice.label, e.matchesChoice_of_labelRanges⟩
  · rw [length_labelRanges, length_matchRanges, normalizeString, String.toList_ofList]
  · rw [Origin.map_char_ofText, normalize_true]

/-- The query reads "creme" without accents, and the label has one. -/
theorem highlighting_agrees_with_filtering_accented :
    (compile "creme" none).labelRanges true "Crème brûlée" = [(0, 6)] ∧
      (compile "creme" none).matchesChoice true (.ofLabel "Crème brûlée") = true := by
  have found : (compile "creme" none).labelRanges true "Crème brûlée" = [(0, 6)] := by
    decide +kernel
  have highlighted :=
    (highlighting_agrees_with_filtering (compile "creme" none) true (.ofLabel "Crème brûlée")).2.2.2
  exact ⟨found, highlighted (by rw [Choice.ofLabel, found]; exact List.cons_ne_nil _ _)⟩

end Expression

end Picklist.Select
