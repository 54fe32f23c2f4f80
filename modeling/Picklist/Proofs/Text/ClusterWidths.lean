import Mathlib.Data.List.Induction
import Picklist.Proofs.Text.FullDecomposition
import Picklist.Unicode.Grapheme
import Picklist.Unicode.Width

/-!
# Widths of clusters

A text is measured as a whole, but painted cluster by cluster. The width of a character depends on
the next one only if that is a selector, a skin tone, or the line feed of a carriage return, and
these never begin a cluster. So without joiners the clusters take together as many columns as the
text. A joiner can make a picture count nothing although it stands in a cluster of its own.
-/

set_option autoImplicit false

namespace Picklist.Unicode

/-! ## Characters that are measured together -/

/-- Whether the second character changes the width of the one before it. -/
def Binds (c d : Char) : Prop :=
  (c = '\r' ∧ d = '\n') ∨ (d = pictureSelector ∧ selectablePictureRanges.contains c = true) ∨
    (isSkinTone d = true ∧ pictographRanges.contains c = true) ∨
    (d = textSelector ∧ narrows c = true)

/-- A character to which the next one does not bind counts by itself. -/
theorem textWidth_of_free {c d : Char} {rest : List Char} (free : ¬ Binds c d)
    (plain : d ≠ joiner) :
    textWidth (c :: d :: rest) = charWidth c + textWidth (d :: rest) := by
  obtain ⟨unbroken, unselected, untoned, unnarrowed⟩ :
      ¬ (c = '\r' ∧ d = '\n') ∧
      ¬ (d = pictureSelector ∧ selectablePictureRanges.contains c = true) ∧
      ¬ (isSkinTone d = true ∧ pictographRanges.contains c = true) ∧
      ¬ (d = textSelector ∧ narrows c = true) := by
    simpa only [Binds, not_or] using free
  have apart : c = '\r' → d = '\n' → False := fun first second => unbroken ⟨first, second⟩
  unfold textWidth
  cases rest with
  | nil =>
    rw [widthFrom.eq_4 _ _ _ apart]
    simp [unselected, untoned, unnarrowed, plain]
  | cons e rest =>
    rw [widthFrom.eq_3 _ _ _ _ _ apart]
    simp [unselected, untoned, unnarrowed, plain]

/-- A character and one that binds to it count apart from the rest. -/
theorem textWidth_of_binds {c d : Char} {rest : List Char} (binds : Binds c d)
    (plain : joiner ∉ rest) :
    textWidth (c :: d :: rest) = textWidth [c, d] + textWidth rest := by
  unfold textWidth
  by_cases newline : c = '\r' ∧ d = '\n'
  · obtain ⟨rfl, rfl⟩ := newline
    simp [widthFrom]
  · have apart : c = '\r' → d = '\n' → False := fun first second => newline ⟨first, second⟩
    have widened : (d = pictureSelector ∧ selectablePictureRanges.contains c = true ∨
        isSkinTone d = true ∧ pictographRanges.contains c = true) ∨
        (d = textSelector ∧ narrows c = true) := by
      rw [or_assoc]
      exact binds.resolve_left newline
    by_cases pictured : d = pictureSelector ∧ selectablePictureRanges.contains c = true ∨
        isSkinTone d = true ∧ pictographRanges.contains c = true
    · cases rest with
      | nil => simp [widthFrom]
      | cons e rest =>
        have unjoined : e ≠ joiner := fun same => plain (same ▸ List.mem_cons_self)
        rw [widthFrom.eq_3 _ _ _ _ _ apart, widthFrom.eq_4 _ _ _ apart, if_pos pictured,
          if_pos pictured, if_neg unjoined]
        simp
    · have narrowed := widened.resolve_left pictured
      cases rest with
      | nil => simp [widthFrom]
      | cons e rest =>
        rw [widthFrom.eq_3 _ _ _ _ _ apart, widthFrom.eq_4 _ _ _ apart, if_neg pictured,
          if_neg pictured, if_pos narrowed, if_pos narrowed, widthFrom, Nat.add_zero]

/-- Texts side by side are measured apart unless a character binds to the one before it. -/
theorem textWidth_append {before after : List Char} (plain : joiner ∉ before ++ after)
    (free : ∀ c ∈ before.getLast?, ∀ d ∈ after.head?, ¬ Binds c d) :
    textWidth (before ++ after) = textWidth before + textWidth after := by
  induction before using List.twoStepInduction with
  | nil => simp [textWidth, widthFrom]
  | singleton c =>
    cases after with
    | nil => simp [textWidth, widthFrom]
    | cons d rest =>
      have unjoined : d ≠ joiner := fun same => plain (by simp [same])
      have alone : textWidth [c] = charWidth c := by simp [textWidth, widthFrom]
      rw [alone]
      exact textWidth_of_free (free c rfl d rfl) unjoined
  | cons_cons c d rest ih ihTail =>
    -- a bound character is measured with the one before it, so two are taken at a time
    rw [List.cons_append, List.mem_cons, not_or] at plain
    by_cases binds : Binds c d
    · have others : joiner ∉ rest ++ after := fun member => plain.2 (List.mem_cons_of_mem _ member)
      have later : textWidth (rest ++ after) = textWidth rest + textWidth after := by
        refine ih others fun last atEnd => free last ?_
        cases rest with
        | nil => cases atEnd
        | cons e rest => rwa [List.getLast?_cons_cons, List.getLast?_cons_cons]
      rw [List.cons_append, List.cons_append, textWidth_of_binds binds others, later,
        textWidth_of_binds binds fun member => others (List.mem_append_left _ member),
        Nat.add_assoc]
    · have unjoined : d ≠ joiner := fun same => plain.2 (same ▸ List.mem_cons_self)
      have later : textWidth (d :: rest ++ after) = textWidth (d :: rest) + textWidth after := by
        refine ihTail d plain.2 fun last atEnd => free last ?_
        rwa [List.getLast?_cons_cons]
      rw [List.cons_append] at later
      rw [List.cons_append, List.cons_append, textWidth_of_free binds unjoined, later,
        textWidth_of_free binds unjoined, Nat.add_assoc]

/-! ## Clusters -/

/-- A character in ranges that are apart from others is not in those. -/
theorem CodeRanges.contains_eq_false {ranges others : CodeRanges}
    (apart : ∀ range ∈ ranges, ∀ other ∈ others, range.2 < other.1 ∨ other.2 < range.1) {c : Char}
    (inside : ranges.contains c = true) : others.contains c = false := by
  rw [contains_eq, covers_iff] at inside
  obtain ⟨range, member, above, below⟩ := inside
  rw [Bool.eq_false_iff, contains_eq, Ne, covers_iff]
  rintro ⟨other, member', above', below'⟩
  rcases apart range member other member' with before | behind <;> omega

/-- The characters that are always clusters of their own, except for the two of a line break. -/
def loneRanges : CodeRanges := (0x0A, 0x0A) :: (0x0D, 0x0D) :: controlRanges

/-- No part of a Korean syllable stands alone. -/
theorem standsAlone_hangulClass? {code : Nat} {cls : BreakClass}
    (hangul : hangulClass? code = some cls) : ClusterState.standsAlone cls = false := by
  simp only [hangulClass?] at hangul
  split_ifs at hangul <;> (rw [← Option.some.inj hangul]; rfl)

/-- Whatever stands alone is in the listed ranges. -/
theorem contains_loneRanges {c : Char} (alone : ClusterState.standsAlone (breakClass c) = true) :
    loneRanges.contains c = true := by
  have control : controlRanges.contains c = true → loneRanges.contains c = true := by
    intro inside
    rw [loneRanges, CodeRanges.contains, List.any_cons, List.any_cons, ← CodeRanges.contains,
      inside, Bool.or_true, Bool.or_true]
  unfold breakClass at alone
  split at alone
  · rename_i same
    rw [same]
    rfl
  · split at alone
    · rename_i same
      rw [same]
      rfl
    · split at alone
      · cases alone
      · split at alone
        · rename_i hangul
          rw [standsAlone_hangulClass? hangul] at alone
          cases alone
        · by_cases inside : controlRanges.contains c = true
          · exact control inside
          · rw [if_neg inside] at alone
            split_ifs at alone <;> cases alone

/-- Skin tones extend what they follow. -/
theorem breakClass_of_isSkinTone {d : Char} (tone : isSkinTone d = true) :
    breakClass d = .extend := by
  simp only [isSkinTone, Bool.and_eq_true, decide_eq_true_eq] at tone
  have tones : ∀ k < 5, breakClass (Char.ofNat (0x1F3FB + k)) = .extend := by decide +kernel
  have there := tones (d.toNat - 0x1F3FB) (by omega)
  rwa [Nat.add_sub_cancel' tone.1, Char.ofNat_toNat] at there

/-- A character that binds to the one before it goes on with its cluster. -/
theorem continues_of_binds {state : ClusterState} {c d : Char} (known : state.last = breakClass c)
    (binds : Binds c d) : state.continues d = true := by
  have goesOn (extending : breakClass d = .extend) (outside : loneRanges.contains c = false) :
      state.continues d = true := by
    have accompanied : ClusterState.standsAlone state.last = false := by
      rw [Bool.eq_false_iff, known]
      intro alone
      rw [contains_loneRanges alone] at outside
      cases outside
    have attached : ClusterState.standsAlone .extend = false := rfl
    simp only [ClusterState.continues, extending, accompanied, attached]
    simp
  rcases binds with ⟨rfl, rfl⟩ | ⟨rfl, selected⟩ | ⟨toned, selected⟩ | ⟨rfl, narrowed⟩
  · unfold ClusterState.continues
    rw [known]
    rfl
  · exact goesOn (by decide +kernel) (CodeRanges.contains_eq_false (by decide +kernel) selected)
  · exact goesOn (breakClass_of_isSkinTone toned)
      (CodeRanges.contains_eq_false (by decide +kernel) selected)
  · rw [narrows, Bool.and_eq_true] at narrowed
    exact goesOn (by decide +kernel) (CodeRanges.contains_eq_false (by decide +kernel) narrowed.1)

/-- Without joiners the clusters take as many columns as the text. -/
theorem foldr_textWidth_graphemesFrom {state : ClusterState} {current text : List Char} {c : Char}
    (known : state.last = breakClass c) (ends : current.head? = some c)
    (plain : joiner ∉ current.reverse ++ text) :
    ((graphemesFrom state current text).map textWidth).foldr (· + ·) 0 =
      textWidth (current.reverse ++ text) := by
  induction text generalizing state current c with
  | nil => simp [graphemesFrom]
  | cons d rest ih =>
    have longer : current.reverse ++ d :: rest = (d :: current).reverse ++ rest := by simp
    rw [graphemesFrom]
    split
    · rw [longer] at plain ⊢
      exact ih rfl rfl plain
    · -- the cluster ends here, so nothing binds across its end
      rename_i ended
      have free : ¬ Binds c d := fun binds => ended (continues_of_binds known binds)
      have apart : textWidth (current.reverse ++ d :: rest) =
          textWidth current.reverse + textWidth (d :: rest) := by
        refine textWidth_append plain fun last atEnd next atStart => ?_
        rw [List.getLast?_reverse, ends] at atEnd
        rw [← Option.some.inj atEnd, ← Option.some.inj atStart]
        exact free
      have others : ((graphemesFrom (.after none d) [d] rest).map textWidth).foldr (· + ·) 0 =
          textWidth (d :: rest) :=
        ih rfl rfl fun member => plain (List.mem_append_right _ member)
      rw [List.map_cons, List.foldr_cons, others, apart]

/-- Without joiners the clusters of a text are together as wide as the text. -/
theorem foldr_textWidth_graphemes {text : List Char} (plain : joiner ∉ text) :
    ((graphemes text).map textWidth).foldr (· + ·) 0 = textWidth text := by
  cases text with
  | nil => rfl
  | cons c rest =>
    have known : (ClusterState.after none c).last = breakClass c := rfl
    exact foldr_textWidth_graphemesFrom known rfl plain

/-- The clusters make up the text. -/
theorem flatten_graphemesFrom (state : ClusterState) (current text : List Char) :
    (graphemesFrom state current text).flatten = current.reverse ++ text := by
  induction text generalizing state current with
  | nil => simp [graphemesFrom]
  | cons c rest ih =>
    rw [graphemesFrom]
    split <;> simp [ih]

/-- The clusters of a text make up the text. -/
theorem flatten_graphemes (text : List Char) : (graphemes text).flatten = text := by
  cases text with
  | nil => rfl
  | cons c rest => exact flatten_graphemesFrom _ [c] rest

end Picklist.Unicode
