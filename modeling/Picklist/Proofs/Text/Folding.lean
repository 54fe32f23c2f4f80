import Picklist.Text.Normalize

/-!
# Folding goes character by character

A text is folded by decomposing it, ordering its combining characters and dropping its marks. The
ordering moves nothing but characters of non-zero combining class, and all of these are marks. So
what is left is the same as if every character were folded by itself.
-/

set_option autoImplicit false

namespace Picklist

namespace Unicode

/-! ## Characters that are reordered are marks -/

/-- Whether every class range lies inside one of the given ranges, both being in ascending order. -/
def coversClasses (ranges : CodeRanges) : List ClassRange → Bool
  | [] => true
  | r :: rest =>
    match ranges.dropWhile fun range => range.2 < r.last with
    | [] => false
    | range :: later => range.1 ≤ r.first && coversClasses (range :: later) rest

/-- Ranges that cover classes cover each class by one of them. -/
theorem exists_range_of_coversClasses {ranges : CodeRanges} {classes : List ClassRange}
    (covers : coversClasses ranges classes = true) {r : ClassRange} (member : r ∈ classes) :
    ∃ range ∈ ranges, range.1 ≤ r.first ∧ r.last ≤ range.2 := by
  induction classes generalizing ranges with
  | nil => cases member
  | cons first rest ih =>
    unfold coversClasses at covers
    split at covers
    · cases covers
    · rename_i range later left
      have among {other : Nat × Nat} (h : other ∈ range :: later) : other ∈ ranges := by
        rw [← left] at h
        exact (List.dropWhile_sublist _).mem h
      obtain ⟨inside, covers⟩ := Bool.and_eq_true_iff.mp covers
      rcases List.mem_cons.mp member with rfl | later
      · have reaches := List.head?_dropWhile_not (fun range : Nat × Nat => range.2 < r.last) ranges
        rw [left] at reaches
        refine ⟨range, among List.mem_cons_self, of_decide_eq_true inside, ?_⟩
        simpa using reaches
      · obtain ⟨other, h, bounds⟩ := ih covers later
        exact ⟨other, among h, bounds⟩

/-- All characters of non-zero combining class are combining marks. -/
theorem isMark_of_combiningClass {c : Char} (moved : combiningClass c ≠ 0) : isMark c = true := by
  have covers : coversClasses (markRangesLow ++ markRangesHigh)
      (classRangesLow ++ classRangesHigh) = true := by decide +kernel
  unfold combiningClass at moved
  split at moved
  · rename_i r found
    obtain ⟨range, member, below, above⟩ :=
      exists_range_of_coversClasses covers (List.mem_of_find?_eq_some found)
    have inside := List.find?_some found
    simp only [Bool.and_eq_true, decide_eq_true_eq] at inside
    have contains : (range.1 ≤ c.toNat && c.toNat ≤ range.2) = true := by
      simp only [Bool.and_eq_true, decide_eq_true_eq]
      omega
    unfold isMark CodeRanges.contains
    rw [← List.any_append]
    exact List.any_eq_true.mpr ⟨range, member, contains⟩
  · exact absurd rfl moved

/-- Putting a mark in its place leaves the other characters in theirs. -/
theorem filter_placeInOrder (c : Char) (cs : List Char) :
    (placeInOrder c cs).filter (!isMark ·) = (c :: cs).filter (!isMark ·) := by
  induction cs with
  | nil => rfl
  | cons d rest ih =>
    unfold placeInOrder
    split
    · rename_i moves
      have marks : isMark c = true ∧ isMark d = true :=
        ⟨isMark_of_combiningClass (by omega), isMark_of_combiningClass (by omega)⟩
      simp [ih, marks]
    · rfl

/-- Ordering the combining characters leaves all others as they stand. -/
theorem filter_canonicalOrder (cs : List Char) :
    (canonicalOrder cs).filter (!isMark ·) = cs.filter (!isMark ·) := by
  induction cs with
  | nil => rfl
  | cons c cs ih =>
    show (placeInOrder c (canonicalOrder cs)).filter (!isMark ·) = _
    rw [filter_placeInOrder, List.filter_cons, List.filter_cons, ih]

/-! ## ASCII characters stand for themselves -/

/-- An ASCII character stands for itself. -/
theorem decompose_of_ascii {c : Char} (ascii : c.toNat < 128) : decompose c = [c] := by
  have listed : ∀ g ∈ decompositionGroups, 128 ≤ g.first := by decide +kernel
  have none : tableDecomposition? c = none := by
    have outside : decompositionGroups.find? (fun g => g.first ≤ c.toNat && c.toNat ≤ g.last) =
        none := by
      rw [List.find?_eq_none]
      intro g member
      have above := listed g member
      simp only [Bool.and_eq_true, decide_eq_true_eq]
      omega
    rw [tableDecomposition?, outside]
  have noSyllable : ¬ (hangulBase ≤ c.toNat ∧ c.toNat < hangulBase + hangulCount) := by
    unfold hangulBase
    omega
  rw [decompose, if_neg noSyllable, none]

/-- No ASCII character is a mark. -/
theorem isMark_of_ascii {c : Char} (ascii : c.toNat < 128) : isMark c = false := by
  have listed : ∀ range ∈ markRangesLow ++ markRangesHigh, 128 ≤ range.1 := by decide +kernel
  unfold isMark CodeRanges.contains
  rw [← List.any_append, List.any_eq_false]
  intro range member
  have above := listed range member
  simp only [Bool.and_eq_true, decide_eq_true_eq]
  omega

end Unicode

namespace Text

open Unicode

/-! ## Dropping marks -/

/-- Stripping marks decomposes every character and leaves the marks out; their order does not
matter. -/
theorem stripMarks_eq (cs : List Char) :
    stripMarks cs = (cs.flatMap decompose).filter (!isMark ·) :=
  filter_canonicalOrder _

/-- Marks are stripped from two texts, one after the other, as from each of them. -/
theorem stripMarks_append (cs ds : List Char) :
    stripMarks (cs ++ ds) = stripMarks cs ++ stripMarks ds := by
  simp only [stripMarks_eq, List.flatMap_append, List.filter_append]

/-- ASCII texts have no marks to strip. -/
theorem stripMarks_of_isAscii {cs : List Char} (ascii : isAscii cs = true) :
    stripMarks cs = cs := by
  induction cs with
  | nil => rfl
  | cons c cs ih =>
    rw [isAscii, List.all_cons, Bool.and_eq_true, decide_eq_true_eq] at ascii
    have first : stripMarks [c] = [c] := by
      simp [stripMarks_eq, decompose_of_ascii ascii.1, isMark_of_ascii ascii.1]
    calc stripMarks (c :: cs) = stripMarks [c] ++ stripMarks cs := stripMarks_append [c] cs
      _ = c :: cs := by rw [first, ih ascii.2, List.singleton_append]

/-- With folding on, the shortcut for ASCII texts makes no difference. -/
theorem normalize_true (cs : List Char) : normalize true cs = stripMarks cs := by
  unfold normalize
  cases ascii : isAscii cs with
  | true => exact (stripMarks_of_isAscii ascii).symm
  | false => rfl

end Text

end Picklist
