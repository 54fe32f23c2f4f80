import Mathlib.Data.List.Basic
import Picklist.Proofs.Text.Folding

/-!
# Parts of a text stay parts in normal form

White space around a part may be inside of the whole, so trimming the part takes away more than
trimming the whole does there. What is left of the part begins and ends with characters that the
whole does not lose. Folding goes character by character and keeps parts as they are.
-/

set_option autoImplicit false

namespace Picklist

namespace Unicode

variable {part whole : List Char}

/-- A part of a text, trimmed at the start, is part of the text trimmed so. -/
theorem trimStart_mono (inside : part <:+: whole) : trimStart part <:+: trimStart whole := by
  obtain ⟨before, after, rfl⟩ := inside
  unfold trimStart
  rw [List.append_assoc, List.dropWhile_append]
  split
  · rw [List.dropWhile_append]
    split
    · rename_i blank
      rw [List.isEmpty_iff.mp blank]
      exact List.nil_infix
    · exact (List.prefix_append _ after).isInfix
  · -- the white space before ends inside of what stands before the part
    have suffix : part.dropWhile isWhiteSpace <:+: part := (List.dropWhile_suffix _).isInfix
    exact suffix.trans ⟨before.dropWhile isWhiteSpace, after, List.append_assoc _ _ _⟩

/-- A part of a text, trimmed at the end, is part of the text trimmed so. -/
theorem trimEnd_mono (inside : part <:+: whole) : trimEnd part <:+: trimEnd whole :=
  List.reverse_infix.mpr (trimStart_mono (List.reverse_infix.mpr inside))

/-- A part of a text, trimmed, is part of the trimmed text. -/
theorem trim_mono (inside : part <:+: whole) : trim part <:+: trim whole :=
  trimEnd_mono (trimStart_mono inside)

/-- Trimming the end leaves the front of the text. -/
theorem trimEnd_isPrefix (cs : List Char) : trimEnd cs <+: cs := by
  rw [← List.reverse_suffix, trimEnd, List.reverse_reverse]
  exact List.dropWhile_suffix _

/-- A trimmed text is a part of the text. -/
theorem trim_isInfix (cs : List Char) : trim cs <:+: cs :=
  (trimEnd_isPrefix _).isInfix.trans (List.dropWhile_suffix _).isInfix

end Unicode

namespace Text

variable {part whole : List Char}

/-- A part of a text, normalized, is part of the normalized text. -/
theorem normalize_mono (fold : Bool) (inside : part <:+: whole) :
    normalize fold part <:+: normalize fold whole := by
  cases fold with
  | false => exact inside
  | true =>
    obtain ⟨before, after, rfl⟩ := inside
    simp only [normalize_true, stripMarks_append]
    exact ⟨stripMarks before, stripMarks after, rfl⟩

/-- A part of a query has a normal form that is part of the query's. -/
theorem normalizeQuery_mono (fold : Bool) (inside : part <:+: whole) :
    normalizeQuery fold part <:+: normalizeQuery fold whole :=
  normalize_mono fold (Unicode.trim_mono inside)

/-- The normal form of a query that is a part of a text is a part of the text's normal form. -/
theorem normalizeQuery_isInfix (fold : Bool) (inside : part <:+: whole) :
    normalizeQuery fold part <:+: normalize fold whole :=
  normalize_mono fold ((Unicode.trim_isInfix part).trans inside)

end Text

end Picklist
