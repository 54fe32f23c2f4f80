import Mathlib.Data.List.DropRight
import Picklist.Proofs.Text.FullDecomposition
import Picklist.Proofs.Text.Parts

/-!
# The normal form of a query

A query is trimmed first and folded then. Either is done with after one pass. But a mark at an end
of the query keeps the white space behind it from being trimmed, and then folding drops the mark. So
the result is trimmed, and normalizing it again changes nothing, if and only if folding uncovers no
white space at an end. Normalizing twice is always enough.
-/

set_option autoImplicit false

namespace Picklist

namespace Unicode

/-! ## Trimmed texts -/

/-- A text that neither begins nor ends with white space. -/
structure Trimmed (cs : List Char) : Prop where
  start : cs.head?.any isWhiteSpace = false
  stop : cs.getLast?.any isWhiteSpace = false

/-- Only a text without white space in front is left as it is by trimming the start. -/
theorem trimStart_eq_self_iff {cs : List Char} :
    trimStart cs = cs ↔ cs.head?.any isWhiteSpace = false := by
  cases cs with
  | nil => simp [trimStart]
  | cons c cs =>
    rw [List.head?_cons, Option.any_some, trimStart, List.dropWhile_cons]
    cases space : isWhiteSpace c with
    | true =>
      have shorter := List.length_dropWhile_le isWhiteSpace cs
      simp only [if_true, Bool.true_eq_false, iff_false]
      intro same
      rw [same, List.length_cons] at shorter
      omega
    | false => simp

/-- Only a text without white space at its end is left as it is by trimming the end. -/
theorem trimEnd_eq_self_iff {cs : List Char} :
    trimEnd cs = cs ↔ cs.getLast?.any isWhiteSpace = false := by
  rw [← List.head?_reverse, ← trimStart_eq_self_iff, ← List.reverse_inj, trimEnd,
    List.reverse_reverse]
  rfl

/-- A text trimmed at the start has no white space in front. -/
theorem head?_trimStart (cs : List Char) : (trimStart cs).head?.any isWhiteSpace = false :=
  trimStart_eq_self_iff.mp (List.dropWhile_idempotent isWhiteSpace cs)

/-- A trimmed text has no white space at its ends. -/
theorem trimmed_trim (cs : List Char) : Trimmed (trim cs) where
  start := by
    obtain ⟨dropped, split⟩ := trimEnd_isPrefix (trimStart cs)
    have start := head?_trimStart cs
    rw [← split, List.head?_append] at start
    unfold trim
    cases first : (trimEnd (trimStart cs)).head? with
    | none => rfl
    | some c =>
      rw [first] at start
      exact start
  stop := trimEnd_eq_self_iff.mp (List.rdropWhile_idempotent isWhiteSpace (trimStart cs))

/-- Trimming leaves just the trimmed texts as they are. -/
theorem trim_eq_self_iff {cs : List Char} : trim cs = cs ↔ Trimmed cs := by
  constructor
  · intro same
    rw [← same]
    exact trimmed_trim cs
  · rintro ⟨start, stop⟩
    rw [trim, trimStart_eq_self_iff.mpr start, trimEnd_eq_self_iff.mpr stop]

end Unicode

namespace Text

open Unicode

/-! ## White space that folding uncovers -/

/-- Whether folding leaves nothing of the character. -/
def vanishes (c : Char) : Bool := (stripMarks [c]).isEmpty

/-- A character that vanishes leaves nothing. -/
theorem stripMarks_of_vanishes {c : Char} (gone : vanishes c = true) : stripMarks [c] = [] :=
  List.isEmpty_iff.mp gone

/-- What is left of a character is white space exactly if the character is. -/
theorem any_isWhiteSpace_stripMarks {c d : Char} (member : d ∈ stripMarks [c]) :
    isWhiteSpace d = isWhiteSpace c := by
  obtain ⟨_, here, part, -⟩ := mem_stripMarks.mp member
  rw [List.mem_singleton.mp here] at part
  exact (yields_of_mem part).isWhiteSpace_eq

/-- The first folded character comes from the first character that does not vanish. -/
theorem head?_stripMarks (cs : List Char) :
    (stripMarks cs).head?.any isWhiteSpace = (cs.dropWhile vanishes).head?.any isWhiteSpace := by
  induction cs with
  | nil => rfl
  | cons c cs ih =>
    have split : stripMarks (c :: cs) = stripMarks [c] ++ stripMarks cs := stripMarks_append [c] cs
    rw [split, List.head?_append]
    cases gone : vanishes c with
    | true =>
      rw [List.dropWhile_cons_of_pos gone, stripMarks_of_vanishes gone]
      exact ih
    | false =>
      rw [List.dropWhile_cons_of_neg (by simp [gone])]
      have left : stripMarks [c] ≠ [] := List.isEmpty_eq_false_iff.mp gone
      obtain ⟨d, rest, folded⟩ := List.exists_cons_of_ne_nil left
      rw [folded, List.head?_cons, Option.some_or, List.head?_cons, Option.any_some,
        Option.any_some]
      exact any_isWhiteSpace_stripMarks (by rw [folded]; exact List.mem_cons_self)

/-- The last folded character comes from the last character that does not vanish. -/
theorem getLast?_stripMarks (cs : List Char) :
    (stripMarks cs).getLast?.any isWhiteSpace =
      (cs.rdropWhile vanishes).getLast?.any isWhiteSpace := by
  induction cs using List.reverseRecOn with
  | nil => rfl
  | append_singleton cs c ih =>
    rw [stripMarks_append, List.getLast?_append]
    cases gone : vanishes c with
    | true =>
      rw [List.rdropWhile_concat_pos _ _ _ gone, stripMarks_of_vanishes gone]
      exact ih
    | false =>
      rw [List.rdropWhile_concat_neg _ _ _ (by simp [gone])]
      have left : stripMarks [c] ≠ [] := List.isEmpty_eq_false_iff.mp gone
      obtain ⟨rest, d, folded⟩ := List.eq_nil_or_concat (stripMarks [c]) |>.resolve_left left
      rw [folded, List.concat_eq_append, List.getLast?_concat, Option.some_or, List.getLast?_concat,
        Option.any_some, Option.any_some]
      exact any_isWhiteSpace_stripMarks (by simp [folded])

/-- Folding uncovers white space at an end of the text: it stands there once the characters at that
end that vanish are gone. -/
def Uncovers (cs : List Char) : Prop :=
  (cs.dropWhile vanishes).head?.any isWhiteSpace = true ∨
    (cs.rdropWhile vanishes).getLast?.any isWhiteSpace = true

/-- A text is trimmed after stripping unless that uncovers white space. -/
theorem trimmed_stripMarks_iff {cs : List Char} : Trimmed (stripMarks cs) ↔ ¬ Uncovers cs := by
  unfold Uncovers
  rw [← head?_stripMarks, ← getLast?_stripMarks, not_or, Bool.not_eq_true, Bool.not_eq_true]
  exact ⟨fun h => ⟨h.start, h.stop⟩, fun h => ⟨h.1, h.2⟩⟩

/-! ## Normalizing again -/

/-- A normal form is trimmed unless stripping the trimmed query uncovers white space. -/
theorem trimmed_normalizeQuery_iff {fold : Bool} {cs : List Char} :
    Trimmed (normalizeQuery fold cs) ↔ (fold = true → ¬ Uncovers (trim cs)) := by
  unfold normalizeQuery
  cases fold with
  | false => exact iff_of_true (trimmed_trim cs) fun on => by cases on
  | true =>
    rw [normalize_true, trimmed_stripMarks_iff]
    simp

/-- A query that was normalized is trimmed at the most when it is normalized again. -/
theorem normalizeQuery_normalizeQuery (fold : Bool) (cs : List Char) :
    normalizeQuery fold (normalizeQuery fold cs) = trim (normalizeQuery fold cs) := by
  cases fold with
  | false => rfl
  | true =>
    rw [normalizeQuery, normalize_true]
    apply stripMarks_of_isFolded
    intro c member
    have among := (trim_isInfix _).subset member
    rw [normalizeQuery, normalize_true] at among
    exact isFolded_of_mem among

/-- **The normal form of a query.** Normalizing a normalized query trims it and does nothing else,
so normalizing twice always gives a trimmed text. A normalized query is its own normal form if and
only if it neither begins nor ends with white space. Without folding it never does; with folding it
does exactly if folding the trimmed text uncovers white space at an end. With folding it never holds
a mark or a character that has a decomposition. -/
theorem normal_form_of_query (fold : Bool) (cs : List Char) :
    normalizeQuery fold (normalizeQuery fold cs) = trim (normalizeQuery fold cs) ∧
      (normalizeQuery fold (normalizeQuery fold cs) = normalizeQuery fold cs ↔
        Trimmed (normalizeQuery fold cs)) ∧
      (Trimmed (normalizeQuery fold cs) ↔ (fold = true → ¬ Uncovers (trim cs))) ∧
      (fold = true → ∀ c ∈ normalizeQuery fold cs, isMark c = false ∧ decompose c = [c]) := by
  have again := normalizeQuery_normalizeQuery fold cs
  refine ⟨again, ?_, trimmed_normalizeQuery_iff, ?_⟩
  · rw [again]
    exact trim_eq_self_iff
  · rintro rfl c member
    rw [normalizeQuery, normalize_true] at member
    exact isFolded_of_mem member

/-- Accents inside of a query uncover nothing. -/
theorem normal_form_of_query_brulee :
    let normal := normalizeQuery true " Crème brûlée ".toList
    normal = "Creme brulee".toList ∧ Trimmed normal ∧ normalizeQuery true normal = normal := by
  intro normal
  obtain ⟨-, same, trimmed, -⟩ := normal_form_of_query true " Crème brûlée ".toList
  have covered : ¬ Uncovers (trim " Crème brûlée ".toList) := by
    unfold Uncovers
    decide +kernel
  have clean := trimmed.mpr fun _ => covered
  exact ⟨by decide +kernel, clean, same.mpr clean⟩

/-- A mark stands before the space, so the space is not trimmed. -/
theorem uncovered_space_is_kept :
    let normal := normalizeQuery true "\u0301 a".toList
    normal = " a".toList ∧ ¬ Trimmed normal ∧ normalizeQuery true normal = "a".toList := by
  intro normal
  have kept : normal = " a".toList := by decide +kernel
  refine ⟨kept, ?_, by decide +kernel⟩
  rw [kept]
  rintro ⟨start, -⟩
  cases start

end Text

end Picklist
