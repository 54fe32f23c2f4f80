import Picklist.Proofs.Text.NormalForm

/-!
# What folding leaves nothing of

A character that is no mark decomposes to at least one character that is no mark either, so folding
leaves something of it. So a text folds to nothing if and only if it holds nothing but marks, and
the normal form of a query is empty if and only if the trimmed query is empty, or folding is on and
the trimmed query holds nothing but marks.
-/

set_option autoImplicit false

namespace Picklist

namespace Unicode

/-! ## Parts that are no marks -/

/-- A few ranges without marks; most decompositions start in them. -/
def plainCover : CodeRanges :=
  [(0x0000, 0x02FF), (0x309B, 0xA66E), (0x0370, 0x0482), (0x1100, 0x11FF), (0x1F00, 0x20CF),
    (0x20F1, 0x2CEE), (0x3030, 0x3098), (0x05C8, 0x060F), (0x20000, 0x2FFFF)]

/-- The plain ranges have no mark in them. -/
theorem covers_markRanges_of_plainCover {code : Nat} (plain : plainCover.covers code = true) :
    markRanges.covers code = false := by
  have apart : ∀ cover ∈ plainCover, ∀ range ∈ markRanges,
      cover.2 < range.1 ∨ range.2 < cover.1 := by decide +kernel
  obtain ⟨cover, member, above, below⟩ := CodeRanges.covers_iff.mp plain
  rw [Bool.eq_false_iff, Ne, CodeRanges.covers_iff]
  rintro ⟨range, among, first, last⟩
  have outside := apart cover member range among
  omega

/-- Code points that are listed and no marks have a part that is no mark. -/
theorem exists_plain_of_entry {g : DecompositionGroup} (group : g ∈ decompositionGroups)
    {e : Nat × List Nat} (entry : e ∈ g.entries) (plain : markRanges.covers e.1 = false) :
    ∃ part ∈ e.2, markRanges.covers part = false := by
  have checked : (decompositionGroups.all fun g => g.entries.all fun e =>
      e.2.any (fun part => plainCover.covers part || !markRanges.covers part) ||
        markRanges.covers e.1) = true := by
    decide +kernel
  simp only [List.all_eq_true, List.any_eq_true, Bool.or_eq_true, Bool.not_eq_true'] at checked
  rcases checked g group e entry with ⟨part, member, clear⟩ | mark
  · exact ⟨part, member, clear.elim covers_markRanges_of_plainCover id⟩
  · rw [plain] at mark
    cases mark

/-- A syllable starts with a letter that is no mark. -/
theorem exists_plain_letter {index : Nat} (bound : index < hangulCount) :
    ∃ d ∈ decomposeHangul index, isMark d = false := by
  have leading : 0x1100 + index / 588 ∈ List.range' 0x1100 0x100 := by
    rw [List.mem_range'_1]
    unfold hangulCount at bound
    omega
  refine ⟨Char.ofNat (0x1100 + index / 588), ?_, ?_⟩
  · unfold decomposeHangul
    split <;> exact List.mem_cons_self
  · rw [isMark_eq, CodeRanges.contains_eq,
      toNat_ofNat_of_standsAlone (letters_stand_alone _ leading).1]
    apply covers_markRanges_of_plainCover
    rw [List.mem_range'_1] at leading
    exact CodeRanges.covers_iff.mpr ⟨(0x1100, 0x11FF), by decide, leading.1, by omega⟩

/-- A character that is no mark has a part that is none. -/
theorem exists_plain_part {c : Char} (plain : isMark c = false) :
    ∃ d ∈ decompose c, isMark d = false := by
  unfold decompose
  split
  · exact exists_plain_letter (by omega)
  · cases listed : tableDecomposition? c with
    | none => exact ⟨c, List.mem_singleton_self c, plain⟩
    | some codes =>
      obtain ⟨g, group, -, -, entry⟩ := exists_entry listed
      rw [isMark_eq, CodeRanges.contains_eq] at plain
      obtain ⟨code, member, clear⟩ := exists_plain_of_entry group entry plain
      refine ⟨Char.ofNat code, List.mem_map_of_mem member, ?_⟩
      rwa [isMark_eq, CodeRanges.contains_eq,
        toNat_ofNat_of_standsAlone (parts_of_entry group entry member).1]

end Unicode

namespace Text

open Unicode

/-! ## Texts that fold to nothing -/

/-- Nothing is left of a text just if it is made of marks. -/
theorem stripMarks_eq_nil_iff {cs : List Char} :
    stripMarks cs = [] ↔ ∀ c ∈ cs, isMark c = true := by
  rw [List.eq_nil_iff_forall_not_mem]
  constructor
  · intro nothing c member
    by_contra plain
    obtain ⟨d, part, clear⟩ := exists_plain_part (Bool.eq_false_iff.mpr plain)
    exact nothing d (mem_stripMarks.mpr ⟨c, member, part, clear⟩)
  · intro marks d member
    obtain ⟨c, among, part, clear⟩ := mem_stripMarks.mp member
    rw [(yields_of_mem part).isMark (marks c among)] at clear
    cases clear

/-- There is something in the text, but apart from white space at its ends only marks. -/
def MarksAlone (cs : List Char) : Prop :=
  trim cs ≠ [] ∧ ∀ c ∈ trim cs, isMark c = true

/-- Whether a query is made of marks alone can be decided. -/
instance (cs : List Char) : Decidable (MarksAlone cs) :=
  decidable_of_iff (trim cs ≠ [] ∧ (trim cs).all isMark = true) (and_congr_right' List.all_eq_true)

/-- The normal form of a query is empty if the query is blank, and with folding also if it holds
marks alone. -/
theorem normalizeQuery_eq_nil_iff {fold : Bool} {cs : List Char} :
    normalizeQuery fold cs = [] ↔ trim cs = [] ∨ (fold = true ∧ MarksAlone cs) := by
  unfold normalizeQuery MarksAlone
  cases fold with
  | false =>
    show trim cs = [] ↔ _
    simp
  | true =>
    rw [normalize_true, stripMarks_eq_nil_iff]
    by_cases blank : trim cs = []
    · simp [blank]
    · simp [blank]

end Text

end Picklist
