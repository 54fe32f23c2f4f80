import Picklist.Proofs.Arrange.Preview
import Picklist.View.ArrangeView

/-!
# Rows on display and their boxes

Every row of a vertical list is one cell high, so the box under a cell is found by counting from the
scroll position: it is that of the row which is painted there. As long as no item is moved by key
the rows are the items in their order, and the row with a number is that of the item with this list
index. While nothing is to be kept on display the list is scrolled no further.
-/

set_option autoImplicit false

namespace Picklist.View

open Terminal

/-! ## The box under a cell -/

/-- The boxes of rows with the given list indices, one below the other. -/
def columnBoxes (indices : List Nat) (area : Area) (offset : Nat) : List RowBox :=
  ((indices.drop offset).take area.height).zipIdx.map fun (index, place) =>
    ⟨index, { x := area.x, y := area.y + place, width := area.width, height := 1 }⟩

/-- The boxes of a vertical list depend only on the list indices of its rows. -/
theorem rowBoxes_vertical {v : ArrangeView} (vertical : v.orientation = .vertical) (area : Area)
    (offset : Nat) :
    v.rowBoxes area offset = columnBoxes (v.rows.map Prod.fst) area offset := by
  unfold ArrangeView.rowBoxes columnBoxes
  rw [vertical]
  dsimp only
  rw [← List.map_drop, ← List.map_take, List.zipIdx_map, List.map_map]
  rfl

/-- A list numbered from `first` on holds every entry beside its own number. -/
theorem find?_zipIdx {β : Type} (l : List β) (first k : Nat) :
    (l.zipIdx first).find? (fun entry => entry.2 == first + k) = l[k]?.map (·, first + k) := by
  induction l generalizing first k with
  | nil => rfl
  | cons b l ih =>
    rw [List.zipIdx_cons]
    cases k with
    | zero => simp
    | succ k =>
      have later : first + (k + 1) = first + 1 + k := by omega
      have other : (first == first + (k + 1)) = false := by
        rw [beq_eq_false_iff_ne]
        omega
      rw [List.find?_cons, other, later, ih, List.getElem?_cons_succ]

/-- A cell lies in an area if its column and its row lie within the bounds. -/
theorem contains_iff {area : Area} {column row : Nat} :
    area.contains column row = true ↔
      (area.x ≤ column ∧ column < area.x + area.width) ∧
        area.y ≤ row ∧ row < area.y + area.height := by
  simp only [Area.contains, Bool.and_eq_true, decide_eq_true_eq, and_assoc]
  rfl

/-- The box under a cell is that of the row which is painted there. -/
theorem find?_columnBoxes (indices : List Nat) (area : Area) (offset column row : Nat) :
    (columnBoxes indices area offset).find? (·.area.contains column row) =
      if area.contains column row then
        indices[offset + (row - area.y)]?.map fun index =>
          ⟨index, { area with y := row, height := 1 }⟩
      else none := by
  unfold columnBoxes
  by_cases inside : area.contains column row = true
  · rw [if_pos inside]
    obtain ⟨across, above, below⟩ := contains_iff.mp inside
    obtain ⟨k, rfl⟩ := Nat.exists_eq_add_of_le above
    have under (place : Nat) : Area.contains
        { x := area.x, y := area.y + place, width := area.width, height := 1 } column
          (area.y + k) = (place == 0 + k) := by
      rw [Bool.eq_iff_iff, contains_iff, beq_iff_eq]
      dsimp only
      omega
    have shown : ((indices.drop offset).take area.height)[k]? = indices[offset + k]? := by
      rw [List.getElem?_take_of_lt (by omega), List.getElem?_drop]
    rw [List.find?_map]
    show (List.find? (fun entry : Nat × Nat => Area.contains
      { x := area.x, y := area.y + entry.2, width := area.width, height := 1 } column
        (area.y + k)) _).map _ = _
    simp only [under]
    rw [find?_zipIdx, shown, Option.map_map, Nat.add_sub_cancel_left, Nat.zero_add]
    rfl
  · rw [if_neg inside, List.find?_eq_none]
    intro box mem within
    apply inside
    obtain ⟨⟨index, place⟩, there, rfl⟩ := List.mem_map.mp mem
    obtain ⟨-, bound, -⟩ := List.mem_zipIdx there
    rw [contains_iff] at within ⊢
    rw [Nat.zero_add, List.length_take] at bound
    dsimp only at within
    omega

/-! ## The rows of an arranged list -/

section

variable {α : Type} {a : Arrange.Arranger α}

/-- The rows show every item once. -/
theorem rowOrder_perm (a : Arrange.Arranger α) :
    (rowOrder a.snapshot).Perm (List.range a.items.length) := by
  unfold rowOrder
  split
  · exact .refl _
  · exact a.displayOrder_perm

/-- The rows are the items in their order as long as none is moved by key. -/
theorem rowOrder_of_ungrabbed (ungrabbed : ∀ source drop, a.gesture ≠ .grabbed source drop) :
    rowOrder a.snapshot = List.range a.items.length := by
  unfold rowOrder
  cases gesture : a.gesture with
  | grabbed source drop => exact absurd gesture (ungrabbed source drop)
  | idle | selecting | dragging | settling =>
    simp [Arrange.Arranger.snapshot, Arrange.Arranger.displayOrder, Arrange.Gesture.move?, gesture]

variable (theme : Theme) (label : α → String)

/-- The row at a place is that of the item which the order puts there. -/
theorem rows_getElem? (a : Arrange.Arranger α) (place : Nat) :
    (arrangeView a.snapshot theme label).rows[place]? =
      (rowOrder a.snapshot)[place]?.bind fun index => a.items[index]?.map fun item =>
        (index, itemLine theme (a.snapshot.role index) (label item.value)) := by
  apply getElem?_filterMap_getElem?
  intro index shown
  exact List.mem_range.mp ((rowOrder_perm a).mem_iff.mp shown)

/-- Unless an item is grabbed, the rows are the items in their order. -/
theorem rows_of_ungrabbed (ungrabbed : ∀ source drop, a.gesture ≠ .grabbed source drop) :
    (arrangeView a.snapshot theme label).rows =
      a.items.zipIdx.map fun (item, index) =>
        (index, itemLine theme (a.snapshot.role index) (label item.value)) := by
  apply List.ext_getElem?
  intro place
  rw [rows_getElem?, rowOrder_of_ungrabbed ungrabbed, List.getElem?_map, List.getElem?_zipIdx]
  by_cases inside : place < a.items.length
  · simp [inside]
  · have past : a.items.length ≤ place := Nat.le_of_not_lt inside
    rw [List.getElem?_eq_none past, List.getElem?_eq_none (by simpa using past)]
    rfl

/-- Unless an item is grabbed, the list indices of the rows count up from zero. -/
theorem map_fst_rows (ungrabbed : ∀ source drop, a.gesture ≠ .grabbed source drop) :
    (arrangeView a.snapshot theme label).rows.map Prod.fst = List.range a.items.length := by
  rw [rows_of_ungrabbed theme label ungrabbed, List.map_map]
  show a.items.zipIdx.map Prod.snd = _
  rw [List.zipIdx_map_snd, List.range_eq_range']

/-- The line of the row with a number is that of the item with this list index. -/
theorem lines_of_ungrabbed (ungrabbed : ∀ source drop, a.gesture ≠ .grabbed source drop)
    (vertical : a.config.orientation = .vertical) {offset place : Nat} {item : Arrange.Item α}
    (there : a.items[offset + place]? = some item) :
    ((arrangeView a.snapshot theme label).lines theme offset)[place]? =
      some (itemLine theme (a.snapshot.role (offset + place)) (label item.value)) := by
  have orientation : (arrangeView a.snapshot theme label).orientation = .vertical := vertical
  unfold ArrangeView.lines
  rw [orientation, rows_of_ungrabbed theme label ungrabbed]
  simp [there]

/-- Unless an item is grabbed, the active row is the row of an item. -/
theorem activeRow_lt (ungrabbed : ∀ source drop, a.gesture ≠ .grabbed source drop) {row : Nat}
    (active : (arrangeView a.snapshot theme label).activeRow = some row) :
    row < a.items.length := by
  have order := rowOrder_of_ungrabbed ungrabbed
  unfold arrangeView at active
  dsimp only at active
  split at active
  · cases active
  · rw [order] at active
    obtain ⟨bound, -⟩ := List.findIdx?_eq_some_iff_getElem.mp active
    rwa [List.length_range] at bound

end

/-! ## Scrolling -/

section

variable {v : ArrangeView} (vertical : v.orientation = .vertical) (area : Area)

include vertical

/-- A list is not scrolled past its last row. -/
theorem follow_le {count : Nat} (rows : v.rows.length = count)
    (active : ∀ row, v.activeRow = some row → row < count) (offset : Nat) :
    v.follow area offset ≤ count - max area.height 1 := by
  unfold ArrangeView.follow
  rw [vertical, rows]
  dsimp only
  cases row : v.activeRow with
  | none => exact Nat.min_le_right _ _
  | some index =>
    have bound := active index row
    dsimp only
    split
    · omega
    · split <;> omega

/-- A list without a row to show is scrolled no further. -/
theorem follow_of_inactive {count : Nat} (rows : v.rows.length = count)
    (inactive : v.activeRow = none) {offset : Nat} (settled : offset ≤ count - max area.height 1) :
    v.follow area offset = offset := by
  unfold ArrangeView.follow
  rw [vertical, rows, inactive]
  exact Nat.min_eq_left settled

end

end Picklist.View
