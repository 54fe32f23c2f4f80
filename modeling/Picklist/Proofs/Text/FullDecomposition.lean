import Picklist.Proofs.Text.Folding

/-!
# Decompositions are full

What a character decomposes to has no decomposition of its own: the table lists full decompositions,
and the letters of a syllable stand for themselves. Marks decompose to marks, and white space to
white space, and nothing else does. So a folded text holds no marks, nothing in it is left to
decompose, and folding it again changes nothing.

The table is long. It is checked by comparisons of numbers, and a few ranges sort out most code
points before the table is searched for them.
-/

set_option autoImplicit false

namespace Picklist

namespace Unicode

/-! ## Code points -/

/-- Whether the code point lies in one of the ranges. -/
def CodeRanges.covers (ranges : CodeRanges) (code : Nat) : Bool :=
  List.any ranges fun range => Nat.ble range.1 code && Nat.ble code range.2

/-- A code is covered if one of the ranges has it. -/
theorem CodeRanges.covers_iff {ranges : CodeRanges} {code : Nat} :
    ranges.covers code = true ↔ ∃ range ∈ ranges, range.1 ≤ code ∧ code ≤ range.2 := by
  simp only [covers, List.any_eq_true, Bool.and_eq_true, Nat.ble_eq]

/-- A character is in the ranges that cover its code. -/
theorem CodeRanges.contains_eq (ranges : CodeRanges) (c : Char) :
    ranges.contains c = ranges.covers c.toNat := by
  rw [Bool.eq_iff_iff, covers_iff]
  simp only [contains, List.any_eq_true, Bool.and_eq_true, decide_eq_true_eq]

/-- All ranges of marks. -/
def markRanges : CodeRanges := markRangesLow ++ markRangesHigh

/-- A character is a mark if the ranges of marks have it. -/
theorem isMark_eq (c : Char) : isMark c = markRanges.contains c :=
  List.any_append.symm

/-! ## The table -/

/-- Whether the table lists a decomposition of the code point. -/
def isListed (code : Nat) : Bool :=
  decompositionGroups.any fun g =>
    Nat.ble code g.last && (Nat.ble g.first code && g.entries.any fun e => Nat.beq e.1 code)

/-- An entry of the table stands in a group that spans it. -/
theorem exists_entry {c : Char} {codes : List Nat} (listed : tableDecomposition? c = some codes) :
    ∃ g ∈ decompositionGroups, g.first ≤ c.toNat ∧ c.toNat ≤ g.last ∧
      (c.toNat, codes) ∈ g.entries := by
  unfold tableDecomposition? at listed
  split at listed
  · rename_i g found
    have inside := List.find?_some found
    simp only [Bool.and_eq_true, decide_eq_true_eq] at inside
    obtain ⟨before, after, split, -⟩ := List.lookup_eq_some_iff.mp listed
    refine ⟨g, List.mem_of_find?_eq_some found, inside.1, inside.2, ?_⟩
    rw [split]
    exact List.mem_append_right _ List.mem_cons_self
  · cases listed

/-- A character with an entry is listed. -/
theorem isListed_of_tableDecomposition? {c : Char} {codes : List Nat}
    (listed : tableDecomposition? c = some codes) : isListed c.toNat = true := by
  obtain ⟨g, group, first, last, entry⟩ := exists_entry listed
  refine List.any_eq_true.mpr ⟨g, group, ?_⟩
  simp only [Bool.and_eq_true, Nat.ble_eq, List.any_eq_true, Nat.beq_eq]
  exact ⟨last, first, _, entry, rfl⟩

/-! ### Parts of decompositions -/

/-- Stretches without listed code points; most parts of decompositions lie in them. -/
def unlistedRanges : CodeRanges := [
  (0x0000, 0x00BF), (0x0300, 0x033F), (0x3400, 0xABFF), (0x0391, 0x03A9), (0x03B1, 0x03C9),
  (0x0345, 0x0373), (0x20000, 0x2F7FF)]

/-- What lies in the unlisted ranges is not listed. -/
theorem isListed_of_unlisted {code : Nat} (unlisted : unlistedRanges.covers code = true) :
    isListed code = false := by
  have outside : ∀ range ∈ unlistedRanges, ∀ g ∈ decompositionGroups,
      g.last < range.1 ∨ range.2 < g.first ∨ ∀ e ∈ g.entries, e.1 < range.1 ∨ range.2 < e.1 := by
    decide +kernel
  obtain ⟨range, member, above, below⟩ := CodeRanges.covers_iff.mp unlisted
  refine List.any_eq_false.mpr fun g group => ?_
  simp only [Bool.and_eq_true, Nat.ble_eq, List.any_eq_true, Nat.beq_eq]
  rintro ⟨last, first, e, entry, same⟩
  rcases outside range member g group with before | behind | entries
  · omega
  · omega
  · have apart := entries e entry
    omega

/-- Whether the code point is that of a character which stands for itself. -/
def standsAlone (code : Nat) : Bool :=
  (unlistedRanges.covers code || !isListed code) &&
    (Nat.ble code 0xABFF || (Nat.ble 0xF900 code && Nat.ble code 0x10FFFF))

/-- A code that stands alone is that of its character. -/
theorem toNat_ofNat_of_standsAlone {code : Nat} (alone : standsAlone code = true) :
    (Char.ofNat code).toNat = code := by
  simp only [standsAlone, Bool.and_eq_true, Bool.or_eq_true, Nat.ble_eq] at alone
  have valid : code.isValidChar := by
    unfold Nat.isValidChar
    omega
  rw [Char.ofNat, dif_pos valid]
  rfl

/-- A character that stands alone decomposes to itself. -/
theorem decompose_of_standsAlone {code : Nat} (alone : standsAlone code = true) :
    decompose (Char.ofNat code) = [Char.ofNat code] := by
  have same := toNat_ofNat_of_standsAlone alone
  simp only [standsAlone, Bool.and_eq_true, Bool.or_eq_true, Nat.ble_eq, Bool.not_eq_true'] at alone
  obtain ⟨unlisted, place⟩ := alone
  have noSyllable : ¬ (hangulBase ≤ (Char.ofNat code).toNat ∧
      (Char.ofNat code).toNat < hangulBase + hangulCount) := by
    rw [same, hangulBase, hangulCount]
    omega
  have absent : isListed code = false := unlisted.elim isListed_of_unlisted id
  have none : tableDecomposition? (Char.ofNat code) = none := by
    rw [Option.eq_none_iff_forall_ne_some]
    intro codes listed
    have present := isListed_of_tableDecomposition? listed
    rw [same, absent] at present
    cases present
  rw [decompose, if_neg noSyllable, none]

/-- A few ranges around all white space. -/
def spaceCover : CodeRanges :=
  [(0x0000, 0x0020), (0x007F, 0x00A0), (0x1680, 0x1680), (0x2000, 0x3000)]

/-- The ranges that cover white space do so. -/
theorem spaceCover_covers {code : Nat} (space : whiteSpaceRanges.covers code = true) :
    spaceCover.covers code = true := by
  have around : ∀ range ∈ whiteSpaceRanges, ∃ cover ∈ spaceCover,
      cover.1 ≤ range.1 ∧ range.2 ≤ cover.2 := by decide
  obtain ⟨range, member, above, below⟩ := CodeRanges.covers_iff.mp space
  obtain ⟨cover, among, first, last⟩ := around range member
  exact CodeRanges.covers_iff.mpr ⟨cover, among, by omega, by omega⟩

/-- Parts of listed decompositions stand for themselves, and white space is a part of white space
only. -/
theorem parts_of_entry {g : DecompositionGroup} (group : g ∈ decompositionGroups)
    {e : Nat × List Nat} (entry : e ∈ g.entries) {part : Nat} (member : part ∈ e.2) :
    standsAlone part = true ∧
      (whiteSpaceRanges.covers part = true → whiteSpaceRanges.covers e.1 = true) := by
  have checked : (decompositionGroups.all fun g => g.entries.all fun e => e.2.all fun part =>
      standsAlone part && (!spaceCover.covers part ||
        (!whiteSpaceRanges.covers part || whiteSpaceRanges.covers e.1))) = true := by
    decide +kernel
  simp only [List.all_eq_true, Bool.and_eq_true, Bool.or_eq_true, Bool.not_eq_true'] at checked
  obtain ⟨alone, kept⟩ := checked g group e entry part member
  refine ⟨alone, fun space => ?_⟩
  rw [spaceCover_covers space, space] at kept
  simpa using kept

/-- Whether listed code points in the ranges decompose to code points in the ranges. Groups that a
range does not meet are passed over. -/
def CodeRanges.isClosed (ranges : CodeRanges) : Bool :=
  List.all ranges fun range => decompositionGroups.all fun g =>
    Nat.blt range.2 g.first || (Nat.blt g.last range.1 || g.entries.all fun e =>
      Nat.blt e.1 range.1 || (Nat.blt range.2 e.1 || e.2.all ranges.covers))

/-- Closed ranges that have a character have the parts of its entry. -/
theorem CodeRanges.covers_part {ranges : CodeRanges} (closed : ranges.isClosed = true)
    {g : DecompositionGroup} (group : g ∈ decompositionGroups) {e : Nat × List Nat}
    (entry : e ∈ g.entries) (first : g.first ≤ e.1) (last : e.1 ≤ g.last)
    (inside : ranges.covers e.1 = true) : ∀ part ∈ e.2, ranges.covers part = true := by
  obtain ⟨range, member, above, below⟩ := covers_iff.mp inside
  simp only [isClosed, List.all_eq_true, Bool.or_eq_true, Nat.blt_eq] at closed
  rcases closed range member g group with before | behind | entries
  · omega
  · omega
  · rcases entries e entry with before | behind | parts
    · omega
    · omega
    · exact parts

/-- Marks decompose to marks. -/
theorem isClosed_markRanges : markRanges.isClosed = true := by decide +kernel

/-- White space decomposes to white space. -/
theorem isClosed_whiteSpaceRanges : whiteSpaceRanges.isClosed = true := by decide +kernel

/-! ## What a character decomposes to -/

/-- The ways in which one character comes out of another. -/
inductive Yields (c : Char) : Char → Prop where
  /-- It is a letter of the syllable. -/
  | letter (code : Nat) (first : hangulBase ≤ c.toNat) (last : c.toNat < hangulBase + hangulCount)
    (letter : code ∈ List.range' 0x1100 0x100) : Yields c (Char.ofNat code)
  /-- The table says so. -/
  | part (g : DecompositionGroup) (codes : List Nat) (code : Nat) (group : g ∈ decompositionGroups)
    (first : g.first ≤ c.toNat) (last : c.toNat ≤ g.last) (entry : (c.toNat, codes) ∈ g.entries)
    (member : code ∈ codes) : Yields c (Char.ofNat code)
  /-- The character stands for itself. -/
  | itself (alone : decompose c = [c]) : Yields c c

/-- A Korean syllable decomposes to letters of their block. -/
theorem exists_letter {index : Nat} (bound : index < hangulCount) {d : Char}
    (member : d ∈ decomposeHangul index) :
    ∃ code ∈ List.range' 0x1100 0x100, d = Char.ofNat code := by
  have leading : index / 588 < 19 := by
    unfold hangulCount at bound
    omega
  have vowel : index % 588 / 28 < 21 := by omega
  have trailing : index % 28 < 28 := Nat.mod_lt _ (by decide)
  simp only [List.mem_range'_1]
  unfold decomposeHangul at member
  split at member
  · simp only [List.mem_cons, List.not_mem_nil, or_false] at member
    rcases member with rfl | rfl
    · exact ⟨_, by omega, rfl⟩
    · exact ⟨_, by omega, rfl⟩
  · simp only [List.mem_cons, List.not_mem_nil, or_false] at member
    rcases member with rfl | rfl | rfl
    · exact ⟨_, by omega, rfl⟩
    · exact ⟨_, by omega, rfl⟩
    · exact ⟨_, by omega, rfl⟩

/-- Whatever a character decomposes to is what it yields. -/
theorem yields_of_mem {c d : Char} (member : d ∈ decompose c) : Yields c d := by
  unfold decompose at member
  split at member
  · rename_i syllable
    obtain ⟨code, letter, rfl⟩ := exists_letter (by omega) member
    exact .letter code syllable.1 syllable.2 letter
  · rename_i noSyllable
    cases listed : tableDecomposition? c with
    | some codes =>
      rw [listed] at member
      obtain ⟨code, among, rfl⟩ := List.mem_map.mp member
      obtain ⟨g, group, first, last, entry⟩ := exists_entry listed
      exact .part g codes code group first last entry among
    | none =>
      rw [listed] at member
      obtain rfl := List.mem_singleton.mp member
      refine .itself ?_
      rw [decompose, if_neg noSyllable, listed]

/-- The letters of syllables stand for themselves, and none is white space. -/
theorem letters_stand_alone : ∀ code ∈ List.range' 0x1100 0x100,
    standsAlone code = true ∧ whiteSpaceRanges.covers code = false := by
  decide +kernel

/-- No range of the set holds a syllable. -/
def CodeRanges.avoidsSyllables (ranges : CodeRanges) : Bool :=
  List.all ranges fun range =>
    Nat.blt range.2 hangulBase || Nat.ble (hangulBase + hangulCount) range.1

namespace Yields

variable {c d : Char}

/-- What comes out of a character has no decomposition of its own. -/
theorem decompose_eq (yields : Yields c d) : decompose d = [d] := by
  cases yields with
  | letter code _ _ letter => exact decompose_of_standsAlone (letters_stand_alone code letter).1
  | part g codes code group first last entry member =>
    exact decompose_of_standsAlone (parts_of_entry group entry member).1
  | itself alone => exact alone

/-- Sets of characters without syllables that are closed for the table are closed. -/
theorem contains (yields : Yields c d) {ranges : CodeRanges} (closed : ranges.isClosed = true)
    (avoids : ranges.avoidsSyllables = true) (inside : ranges.contains c = true) :
    ranges.contains d = true := by
  rw [CodeRanges.contains_eq] at inside ⊢
  cases yields with
  | letter code first last _ =>
    obtain ⟨range, member, above, below⟩ := CodeRanges.covers_iff.mp inside
    simp only [CodeRanges.avoidsSyllables, List.all_eq_true, Bool.or_eq_true, Nat.blt_eq,
      Nat.ble_eq] at avoids
    have apart := avoids range member
    omega
  | part g codes code group first last entry member =>
    rw [toNat_ofNat_of_standsAlone (parts_of_entry group entry member).1]
    exact CodeRanges.covers_part closed group entry first last inside code member
  | itself => exact inside

/-- A mark yields only marks. -/
theorem isMark (yields : Yields c d) (mark : isMark c = true) : Unicode.isMark d = true := by
  rw [isMark_eq] at mark ⊢
  exact yields.contains isClosed_markRanges (by decide +kernel) mark

/-- White space comes out of white space, and nothing else does. -/
theorem isWhiteSpace_eq (yields : Yields c d) : isWhiteSpace d = isWhiteSpace c := by
  rw [Bool.eq_iff_iff]
  constructor
  · intro space
    rw [isWhiteSpace, CodeRanges.contains_eq] at space ⊢
    cases yields with
    | letter code _ _ letter =>
      obtain ⟨alone, noSpace⟩ := letters_stand_alone code letter
      rw [toNat_ofNat_of_standsAlone alone, noSpace] at space
      cases space
    | part g codes code group _ _ entry member =>
      obtain ⟨alone, kept⟩ := parts_of_entry group entry member
      rw [toNat_ofNat_of_standsAlone alone] at space
      exact kept space
    | itself => exact space
  · exact yields.contains isClosed_whiteSpaceRanges (by decide +kernel)

end Yields

end Unicode

namespace Text

open Unicode

/-! ## Folded texts -/

variable {c : Char} {cs : List Char}

/-- What is left of a text are the parts of its characters that are no marks. -/
theorem mem_stripMarks {d : Char} :
    d ∈ stripMarks cs ↔ ∃ c ∈ cs, d ∈ decompose c ∧ isMark d = false := by
  rw [stripMarks_eq, List.mem_filter, List.mem_flatMap, Bool.not_eq_true']
  constructor
  · rintro ⟨⟨c, member, part⟩, plain⟩
    exact ⟨c, member, part, plain⟩
  · rintro ⟨c, member, part, plain⟩
    exact ⟨⟨c, member, part⟩, plain⟩

/-- Whether folding leaves the character as it is. -/
def IsFolded (c : Char) : Prop := isMark c = false ∧ decompose c = [c]

/-- Nothing in a folded text is left to fold. -/
theorem isFolded_of_mem (member : c ∈ stripMarks cs) : IsFolded c := by
  obtain ⟨_, -, part, plain⟩ := mem_stripMarks.mp member
  exact ⟨plain, (yields_of_mem part).decompose_eq⟩

/-- A text that folds to itself has nothing to strip. -/
theorem stripMarks_of_isFolded (folded : ∀ c ∈ cs, IsFolded c) : stripMarks cs = cs := by
  induction cs with
  | nil => rfl
  | cons c cs ih =>
    obtain ⟨⟨plain, alone⟩, rest⟩ := List.forall_mem_cons.mp folded
    have first : stripMarks [c] = [c] := by simp [stripMarks_eq, alone, plain]
    calc stripMarks (c :: cs) = stripMarks [c] ++ stripMarks cs := stripMarks_append [c] cs
      _ = c :: cs := by rw [first, ih rest, List.singleton_append]

/-- A folded text is its own folding. -/
theorem stripMarks_stripMarks (cs : List Char) : stripMarks (stripMarks cs) = stripMarks cs :=
  stripMarks_of_isFolded fun _ => isFolded_of_mem

/-- ASCII characters fold to themselves. -/
theorem isFolded_of_isAscii (ascii : isAscii cs = true) : ∀ c ∈ cs, IsFolded c := by
  intro c member
  have small : c.toNat < 128 := of_decide_eq_true (List.all_eq_true.mp ascii c member)
  exact ⟨isMark_of_ascii small, decompose_of_ascii small⟩

/-- Marks vanish when a text is folded. -/
theorem stripMarks_of_isMark (mark : isMark c = true) : stripMarks [c] = [] := by
  rw [List.eq_nil_iff_forall_not_mem]
  intro d member
  obtain ⟨_, here, part, plain⟩ := mem_stripMarks.mp member
  rw [List.mem_singleton.mp here] at part
  rw [(yields_of_mem part).isMark mark] at plain
  cases plain

end Text

end Picklist
