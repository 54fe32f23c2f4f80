import Picklist.Proofs.Select.OriginTable

/-!
# Folding piece by piece

Decomposing a text is more than decomposing its pieces: a mark at the beginning of one piece may
have to stand before a mark at the end of the piece in front of it. But only marks change places,
and folding drops them. So a text is folded piece by piece, and in the end character by character.

Texts of ASCII characters alone are not folded, and their highlighted ranges are those of the
matches. This is a shortcut only. Each of these characters folds to itself, so it is its own origin,
and the table of origins leads from every match to the same match.
-/

set_option autoImplicit false

namespace Picklist.Select

open Text

/-! ## Characters that are their own origin -/

namespace Origin

variable {cs : List Char}

/-- The characters of a text that folds to itself come from their own places. -/
theorem ofText_of_isFolded (folded : ∀ c ∈ cs, IsFolded c) :
    ofText cs = cs.zipIdx.map fun (c, position) => ⟨c, ⟨position, position + 1⟩⟩ := by
  induction cs using List.reverseRecOn with
  | nil => rfl
  | append_singleton cs c ih =>
    have earlier : ∀ d ∈ cs, IsFolded d := fun d member => folded d (List.mem_append_left _ member)
    have alone : stripMarks [c] = [c] :=
      stripMarks_of_isFolded fun d member => folded d (List.mem_append_right _ member)
    rw [ofText_concat, ih earlier, add, alone, List.zipIdx_append, List.map_append]
    simp

/-- A stretch of characters that fold to themselves is its own source. -/
theorem sourceSpan?_of_isFolded (folded : ∀ c ∈ cs, IsFolded c) {span : Span}
    (filled : span.start < span.stop) (inside : span.stop ≤ cs.length) :
    sourceSpan? (ofText cs) span = some span := by
  have here (position : Nat) (bound : position < cs.length) :
      (ofText cs)[position]? = some ⟨cs[position], ⟨position, position + 1⟩⟩ := by
    rw [ofText_of_isFolded folded]
    simp [bound]
  rw [sourceSpan?_eq (here span.start (by omega)) (here (span.stop - 1) (by omega))]
  dsimp only
  rw [Nat.sub_add_cancel (by omega)]

end Origin

/-! ## The shortcut for highlighted ranges -/

namespace Expression

variable (e : Expression)

/-- In a text that folds to itself the matches stand where their sources do. -/
theorem filterMap_sourceSpan?_of_isFolded {cs : List Char} (folded : ∀ c ∈ cs, IsFolded c) :
    (e.spans cs).filterMap (Origin.sourceSpan? (Origin.ofText cs)) = e.spans cs := by
  have bounds := (Apart.iff_pairwise.mp (e.spans_apart cs)).1
  calc (e.spans cs).filterMap (Origin.sourceSpan? (Origin.ofText cs))
    _ = (e.spans cs).filterMap some := by
      apply List.filterMap_congr
      intro span member
      obtain ⟨-, filled, inside⟩ := bounds span member
      exact Origin.sourceSpan?_of_isFolded folded filled inside
    _ = e.spans cs := List.filterMap_some

/-- Where nothing is left to fold, the table leads from the matches to themselves. -/
theorem rangesByLoop?_of_isFolded {label : String} (folded : ∀ c ∈ label.toList, IsFolded c) :
    e.rangesByLoop? label = some (e.matchRanges label) := by
  rw [rangesByLoop?_eq, stripMarks_of_isFolded folded, filterMap_sourceSpan?_of_isFolded e folded]
  rfl

/-- The table leads to the highlighted ranges of every label, also where it is not used. -/
theorem rangesByLoop?_eq_labelRanges (label : String) :
    e.rangesByLoop? label = some (e.labelRanges true label) := by
  cases ascii : isAscii label.toList with
  | true =>
    have shortcut : e.labelRanges true label = e.matchRanges label := by
      simp [labelRanges, labelSpans, matchRanges, ascii]
    rw [shortcut]
    exact e.rangesByLoop?_of_isFolded (isFolded_of_isAscii ascii)
  | false =>
    have taken : e.rangesByTable? true label = e.rangesByLoop? label := by
      simp [rangesByTable?, rangesByLoop?, ascii]
    rw [← taken]
    exact e.rangesByTable?_eq true label

/-- **Folding goes piece by piece, and the shortcuts for ASCII texts are faithful.** Two texts in a
row fold to the two folded texts in a row. A folded text is its own folding, and so is an ASCII
text; so normalizing with folding on is folding for every text. The table of origins leads to the
highlighted ranges of every label, also of the ASCII labels, for which it is not built. -/
theorem folding_goes_piece_by_piece (s t label : String) :
    stripMarksOf (s ++ t) = stripMarksOf s ++ stripMarksOf t ∧
      stripMarksOf (stripMarksOf s) = stripMarksOf s ∧
      (isAscii s.toList = true → stripMarksOf s = s) ∧
      normalizeString true s = stripMarksOf s ∧
      e.rangesByLoop? label = some (e.labelRanges true label) := by
  refine ⟨?_, ?_, ?_, ?_, e.rangesByLoop?_eq_labelRanges label⟩
  · rw [stripMarksOf, String.toList_append, stripMarks_append, String.ofList_append]
    rfl
  · rw [stripMarksOf, stripMarksOf, String.toList_ofList, stripMarks_stripMarks]
  · intro ascii
    rw [stripMarksOf, stripMarks_of_isAscii ascii, String.ofList_toList]
  · rw [normalizeString, normalize_true]
    rfl

/-- The dot below belongs in front of the accent, so the pieces are not decomposed one by one. -/
theorem folding_goes_piece_by_piece_reordered :
    Unicode.canonicalDecomposition ("a\u0301" ++ "\u0323b").toList ≠
        Unicode.canonicalDecomposition "a\u0301".toList ++
          Unicode.canonicalDecomposition "\u0323b".toList ∧
      stripMarksOf ("a\u0301" ++ "\u0323b") = "ab" ∧
      stripMarksOf "plain" = "plain" ∧ normalizeString true "plain" = "plain" ∧
      (compile "ai" none).rangesByLoop? "plain" = some [(2, 4)] := by
  obtain ⟨joined, -⟩ := folding_goes_piece_by_piece (compile "ai" none) "a\u0301" "\u0323b" "plain"
  obtain ⟨-, -, plain, normal, ranges⟩ :=
    folding_goes_piece_by_piece (compile "ai" none) "plain" "" "plain"
  have same : stripMarksOf "plain" = "plain" := plain (by decide)
  have pieces : stripMarksOf "a\u0301" ++ stripMarksOf "\u0323b" = "ab" := by decide +kernel
  have shown : (compile "ai" none).labelRanges true "plain" = [(2, 4)] := by decide +kernel
  exact ⟨by decide +kernel, joined.trans pieces, same, normal.trans same,
    ranges.trans (congrArg some shown)⟩

end Expression

end Picklist.Select
