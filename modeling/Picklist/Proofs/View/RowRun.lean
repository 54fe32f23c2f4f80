import Picklist.Proofs.View.RowBoxes
import Picklist.Proofs.View.Scrolling

/-!
# The run of rows on display

The boxes of a list are those of the rows from the scroll position on, each where its row is
painted, up to the first row that does not fit into the area. Rows one below the other begin a line
further down, and rows side by side begin behind the separator, so no two boxes share a cell, and a
cell that lies in a box is found to be in this one.
-/

set_option autoImplicit false

namespace Picklist.View

open Terminal

/-! ## Rows one behind the other -/

/-- The columns in front of a row add up over the rows before it. -/
theorem columnsBefore_append (rows rows' : List (Nat × StyledLine)) :
    columnsBefore (rows ++ rows') = columnsBefore rows + columnsBefore rows' := by
  induction rows with
  | nil => simp [columnsBefore]
  | cons entry rest ih =>
    simp only [columnsBefore, List.cons_append, List.foldr_cons] at ih ⊢
    rw [ih, Nat.add_assoc _ _ (List.foldr _ _ rows')]

/-- A row begins behind the separator that follows an earlier one. -/
theorem columnsBefore_take_lt {rows : List (Nat × StyledLine)} {j k : Nat}
    {entry : Nat × StyledLine} (there : rows[j]? = some entry) (before : j < k) :
    columnsBefore (rows.take j) + StyledLine.width entry.2 ≤ columnsBefore (rows.take k) := by
  have inside : (rows.take k)[j]? = some entry := by rw [List.getElem?_take_of_lt before, there]
  have split := eq_take_append_cons_drop inside
  rw [List.take_take, Nat.min_eq_left before.le] at split
  rw [split, columnsBefore_append]
  simp only [columnsBefore, List.foldr_cons]
  omega

/-- No cell lies in both boxes. -/
def RowBox.Apart (first second : RowBox) : Prop :=
  ∀ column row, ¬ (first.area.contains column row = true ∧ second.area.contains column row = true)

namespace ArrangeView

variable {v : ArrangeView} {area : Area} {offset : Nat}

/-- Every box is that of the row with its place behind the scroll position. -/
theorem shows_of_box {k : Nat} {box : RowBox} (there : (v.rowBoxes area offset)[k]? = some box) :
    v.Shows area offset (offset + k) := by
  refine ⟨Nat.le_add_right _ _, ?_⟩
  rw [Nat.add_sub_cancel_left, there]
  unfold rowBoxes at there
  unfold rowPlace
  cases orientation : v.orientation with
  | vertical =>
    rw [orientation] at there
    dsimp only at there
    rw [List.getElem?_map, List.getElem?_zipIdx, Option.map_map, Option.map_eq_some_iff] at there
    obtain ⟨entry, shown, rfl⟩ := there
    have bound := (List.getElem?_eq_some_iff.mp shown).1
    rw [List.length_take] at bound
    rw [List.getElem?_take_of_lt (by omega), List.getElem?_drop] at shown
    refine ⟨entry, shown, ?_⟩
    simp
  | horizontal =>
    rw [orientation] at there
    dsimp only at there
    split at there
    · cases there
    · rw [getElem?_stripBoxes, Option.bind_eq_some_iff] at there
      obtain ⟨entry, shown, placed⟩ := there
      rw [List.getElem?_drop] at shown
      refine ⟨entry, shown, ?_⟩
      split at placed
      · rw [← Option.some.inj placed, shown, Nat.add_sub_cancel_left]
        rfl
      · cases placed

/-- The row at a place has a box exactly if the area encloses it. -/
theorem getElem?_rowBoxes_iff {k : Nat} {box : RowBox} :
    (v.rowBoxes area offset)[k]? = some box ↔
      (∃ entry, v.rows[offset + k]? = some entry ∧
        box = ⟨entry.1, v.rowPlace area offset (offset + k)⟩) ∧
      area.Encloses (v.rowPlace area offset (offset + k)) := by
  constructor
  · intro there
    obtain ⟨-, -, inside⟩ := shows_iff_encloses.mp (shows_of_box there)
    obtain ⟨-, entry, shown, placed⟩ := shows_of_box there
    rw [Nat.add_sub_cancel_left, there] at placed
    exact ⟨⟨entry, shown, Option.some.inj placed⟩, inside⟩
  · rintro ⟨⟨entry, shown, rfl⟩, inside⟩
    have bound := (List.getElem?_eq_some_iff.mp shown).1
    obtain ⟨-, other, same, placed⟩ :=
      shows_iff_encloses.mpr ⟨Nat.le_add_right offset k, bound, inside⟩
    rw [shown] at same
    rw [← Option.some.inj same, Nat.add_sub_cancel_left] at placed
    exact placed

/-- A row behind the scroll position has a box exactly if it fits. -/
theorem lt_length_rowBoxes_iff {k : Nat} : k < (v.rowBoxes area offset).length ↔
    offset + k < v.rows.length ∧ area.Encloses (v.rowPlace area offset (offset + k)) := by
  constructor
  · intro bound
    obtain ⟨⟨entry, shown, -⟩, inside⟩ := getElem?_rowBoxes_iff.mp (List.getElem?_eq_getElem bound)
    exact ⟨(List.getElem?_eq_some_iff.mp shown).1, inside⟩
  · rintro ⟨bound, inside⟩
    have there := getElem?_rowBoxes_iff.mpr ⟨⟨_, List.getElem?_eq_getElem bound, rfl⟩, inside⟩
    exact (List.getElem?_eq_some_iff.mp there).1

/-- A box is one cell high and lies in the area. -/
theorem inside_of_mem {box : RowBox} (member : box ∈ v.rowBoxes area offset) :
    box.area.height = 1 ∧ area.Encloses box.area := by
  obtain ⟨k, there⟩ := List.mem_iff_getElem?.mp member
  obtain ⟨⟨-, -, rfl⟩, inside⟩ := getElem?_rowBoxes_iff.mp there
  refine ⟨?_, inside⟩
  unfold rowPlace
  cases v.orientation <;> rfl

/-- Two rows share no cell. -/
theorem rowPlace_apart {j k : Nat} (before : j < k) (inside : offset + j < v.rows.length)
    (column row : Nat) :
    ¬ ((v.rowPlace area offset (offset + j)).contains column row = true ∧
      (v.rowPlace area offset (offset + k)).contains column row = true) := by
  rw [contains_iff, contains_iff]
  unfold rowPlace
  cases v.orientation with
  | vertical =>
    dsimp only
    omega
  | horizontal =>
    have there : (v.rows.drop offset)[j]? = some v.rows[offset + j] := by
      rw [List.getElem?_drop, List.getElem?_eq_getElem inside]
    have behind := columnsBefore_take_lt there before
    dsimp only
    rw [List.getElem?_eq_getElem inside, Nat.add_sub_cancel_left, Nat.add_sub_cancel_left]
    dsimp only [Option.map_some, Option.getD_some]
    omega

/-- No two boxes of rows share a cell. -/
theorem rowBoxes_pairwise : (v.rowBoxes area offset).Pairwise RowBox.Apart := by
  rw [List.pairwise_iff_getElem]
  intro j k jBound kBound before
  obtain ⟨⟨entry, shown, first⟩, -⟩ := getElem?_rowBoxes_iff.mp (List.getElem?_eq_getElem jBound)
  obtain ⟨⟨later, _, second⟩, -⟩ := getElem?_rowBoxes_iff.mp (List.getElem?_eq_getElem kBound)
  rw [first, second]
  exact rowPlace_apart before (List.getElem?_eq_some_iff.mp shown).1

/-- The box found under a cell is the one that contains it. -/
theorem find?_rowBoxes {box : RowBox} (member : box ∈ v.rowBoxes area offset) {column row : Nat}
    (inside : box.area.contains column row = true) :
    (v.rowBoxes area offset).find? (·.area.contains column row) = some box := by
  obtain ⟨before, after, split⟩ := List.append_of_mem member
  have apart : (v.rowBoxes area offset).Pairwise RowBox.Apart := rowBoxes_pairwise
  rw [split, List.pairwise_append] at apart
  rw [split, List.find?_append, List.find?_cons, inside, Option.or_eq_right_of_none]
  rw [List.find?_eq_none]
  intro other earlier within
  exact apart.2.2 other earlier box List.mem_cons_self column row ⟨within, inside⟩

/-! ## The run -/

/-- The boxes are those of a run of rows from the scroll position on, inside the area and without a
common cell. -/
structure IsRowRun (v : ArrangeView) (area : Area) (offset : Nat) (boxes : List RowBox) :
    Prop where
  /-- The boxes are those of consecutive rows, in order and with the list indices of their items. -/
  rows : ∀ k box, boxes[k]? = some box → ∃ entry, v.rows[offset + k]? = some entry ∧
    box = ⟨entry.1, v.rowPlace area offset (offset + k)⟩
  inside : ∀ box ∈ boxes, area.Encloses box.area
  apart : boxes.Pairwise RowBox.Apart
  /-- The first row without a box, if there is one, does not fit. -/
  ended : offset + boxes.length < v.rows.length →
    ¬ area.Encloses (v.rowPlace area offset (offset + boxes.length))
  past : v.rows.length ≤ offset → boxes = []
  flat : area.height = 0 → boxes = []

end ArrangeView

/-- **The row boxes are a run of rows.** For every view, area and scroll position, the boxes are
those of consecutive rows from the scroll position on, in order and with the list indices of their
items. They lie in the area, where no cell is in two of them. They end at the end of the list or at
the first row that does not fit. There are none behind the end of the list or in an area without
height. -/
theorem row_boxes_are_a_run (v : ArrangeView) (area : Area) (offset : Nat) :
    ArrangeView.IsRowRun v area offset (v.rowBoxes area offset) where
  rows := by
    intro k box there
    exact (ArrangeView.getElem?_rowBoxes_iff.mp there).1
  inside := by
    intro box member
    exact (ArrangeView.inside_of_mem member).2
  apart := ArrangeView.rowBoxes_pairwise
  ended := by
    intro more fits
    exact Nat.lt_irrefl _ (ArrangeView.lt_length_rowBoxes_iff.mpr ⟨more, fits⟩)
  past := by
    intro past
    rw [List.eq_nil_iff_forall_not_mem]
    intro box member
    obtain ⟨k, there⟩ := List.mem_iff_getElem?.mp member
    obtain ⟨⟨entry, shown, -⟩, -⟩ := ArrangeView.getElem?_rowBoxes_iff.mp there
    have bound := (List.getElem?_eq_some_iff.mp shown).1
    omega
  flat := by
    intro flat
    rw [List.eq_nil_iff_forall_not_mem]
    intro box member
    obtain ⟨high, -, above, below⟩ := ArrangeView.inside_of_mem member
    unfold Area.bottom at below
    omega

end Picklist.View
