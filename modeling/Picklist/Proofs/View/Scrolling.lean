import Mathlib.Data.List.Basic
import Mathlib.Data.Nat.Dist
import Picklist.View.ArrangeView

/-!
# Scrolling to the active row

A list is scrolled by counting rows, or by summing the columns of the rows side by side, while the
boxes of its rows come from laying them out and leaving out what is cut off. Both agree on what
fits: a row has its box exactly if the rows from the scroll position up to it fit. So the active row
is on display after scrolling, and from no scroll position nearer to the old one it would have been.
-/

set_option autoImplicit false

namespace Picklist.View

open Terminal

/-! ## Rows side by side -/

variable {rows : List (Nat × StyledLine)}

/-- The rows from a scroll position up to a row. -/
def rowsUpTo (rows : List (Nat × StyledLine)) (offset row : Nat) : List (Nat × StyledLine) :=
  (rows.take (row + 1)).drop offset

/-- One row alone is as wide as its line. -/
theorem stripWidth_singleton (entry : Nat × StyledLine) :
    stripWidth [entry] = StyledLine.width entry.2 := by
  simp [stripWidth]

/-- A row in front of others adds its line and a separator. -/
theorem stripWidth_cons (entry : Nat × StyledLine) (nonempty : rows ≠ []) :
    stripWidth (entry :: rows) =
      StyledLine.width entry.2 + Unicode.stringWidth separator + stripWidth rows := by
  obtain ⟨next, rest, rfl⟩ := List.exists_cons_of_ne_nil nonempty
  unfold stripWidth
  simp only [List.map_cons, List.foldr_cons, List.length_cons, Nat.add_sub_cancel]
  rw [Nat.mul_add]
  omega

/-- The rows from a position up to a later row begin with the row at the position. -/
theorem rowsUpTo_eq_cons {offset row : Nat} (bound : offset ≤ row) (inside : row < rows.length) :
    rowsUpTo rows offset row = rows[offset] :: rowsUpTo rows (offset + 1) row := by
  have shown : offset < (rows.take (row + 1)).length := by
    rw [List.length_take]
    omega
  unfold rowsUpTo
  rw [List.drop_eq_getElem_cons shown, List.getElem_take]

/-- The rows from a row up to itself are that row. -/
theorem rowsUpTo_self {row : Nat} (inside : row < rows.length) :
    rowsUpTo rows row row = [rows[row]] := by
  rw [rowsUpTo_eq_cons le_rfl inside]
  simp [rowsUpTo]

/-- Fewer rows take fewer columns. -/
theorem stripWidth_rowsUpTo_le {first offset row : Nat} (firstLe : first ≤ offset)
    (bound : offset ≤ row) (inside : row < rows.length) :
    stripWidth (rowsUpTo rows offset row) ≤ stripWidth (rowsUpTo rows first row) := by
  induction offset, firstLe using Nat.le_induction with
  | base => exact le_rfl
  | succ offset _ ih =>
    have nonempty : rowsUpTo rows (offset + 1) row ≠ [] := by
      rw [rowsUpTo_eq_cons bound inside]
      exact List.cons_ne_nil _ _
    have longer := stripWidth_cons rows[offset] nonempty
    rw [← rowsUpTo_eq_cons (by omega) inside] at longer
    have earlier := ih (by omega)
    omega

/-- The columns in front of the row behind the given ones. -/
def columnsBefore (rows : List (Nat × StyledLine)) : Nat :=
  rows.foldr (fun entry columns =>
    StyledLine.width entry.2 + Unicode.stringWidth separator + columns) 0

/-- A row behind others starts behind the columns of those and is as wide as its line. -/
theorem stripWidth_concat (rows : List (Nat × StyledLine)) (entry : Nat × StyledLine) :
    stripWidth (rows ++ [entry]) = columnsBefore rows + StyledLine.width entry.2 := by
  induction rows with
  | nil => simp [columnsBefore, stripWidth_singleton]
  | cons first rest ih =>
    rw [List.cons_append, stripWidth_cons first (by simp), ih]
    simp only [columnsBefore, List.foldr_cons]
    omega

/-- A row side by side with others has its box exactly if the rows up to it fit. -/
theorem getElem?_stripBoxes (top right column k : Nat) :
    (stripBoxes top right column rows)[k]? = rows[k]?.bind fun entry =>
      if column + stripWidth (rows.take (k + 1)) ≤ right then
        some ⟨entry.1,
          { x := column + columnsBefore (rows.take k), y := top, width := StyledLine.width entry.2,
            height := 1 }⟩
      else none := by
  induction rows generalizing column k with
  | nil => rfl
  | cons first rest ih =>
    obtain ⟨index, line⟩ := first
    rw [stripBoxes]
    cases k with
    | zero =>
      have own : stripWidth (((index, line) :: rest).take 1) = StyledLine.width line := by
        simp [stripWidth_singleton]
      rw [own]
      by_cases cut : right < column + StyledLine.width line
      · simp [cut, Nat.not_le_of_lt cut]
      · simp [cut, Nat.le_of_not_lt cut, columnsBefore]
    | succ k =>
      cases there : rest[k]? with
      | none =>
        have beyond : rest.length ≤ k := List.getElem?_eq_none_iff.mp there
        split
        · simp [there]
        · rw [List.getElem?_cons_succ, List.getElem?_cons_succ, ih, there, Option.bind_none,
            Option.bind_none]
      | some entry =>
        have nonempty : rest.take (k + 1) ≠ [] := by
          intro empty
          rw [List.take_eq_nil_iff] at empty
          rcases empty with impossible | rfl
          · omega
          · simp at there
        have strip := stripWidth_cons (index, line) nonempty
        rw [List.getElem?_cons_succ, there, List.take_succ_cons, strip, List.take_succ_cons]
        split
        · rename_i cut
          have late : ¬ column + (StyledLine.width line + Unicode.stringWidth separator +
              stripWidth (rest.take (k + 1))) ≤ right := by omega
          simp [late]
        · rw [List.getElem?_cons_succ, ih, there]
          simp only [Option.bind_some, columnsBefore, List.foldr_cons, Nat.add_assoc]

/-! ## The loop that scrolls forward -/

/-- One round of scrolling forward, if the rows up to `active` do not fit. -/
def scrollRound? (rows : List (Nat × StyledLine)) (columns active offset : Nat) : Option Nat :=
  if offset < active ∧ columns < stripWidth (rowsUpTo rows offset active) then some (offset + 1)
  else none

/-- Scrolling stops at the active row, or once the rows up to it fit. -/
theorem scrollRound?_eq_none {columns active offset : Nat} :
    scrollRound? rows columns active offset = none ↔
      active ≤ offset ∨ stripWidth (rowsUpTo rows offset active) ≤ columns := by
  unfold scrollRound?
  split
  · simp
    omega
  · simp
    omega

/-- Scrolling forward goes on round by round, one row each, and ends at the active row at the
latest. -/
theorem scrollForward_rounds (rows : List (Nat × StyledLine)) (columns active start : Nat) :
    let stop := scrollForward rows columns active start
    start ≤ stop ∧ stop ≤ max start active ∧ scrollRound? rows columns active stop = none ∧
      ∀ k, start ≤ k → k < stop → scrollRound? rows columns active k = some (k + 1) := by
  fun_induction scrollForward rows columns active start with
  | case1 offset before wide ih =>
    obtain ⟨later, bound, ended, rounds⟩ := ih
    refine ⟨by omega, by omega, ended, ?_⟩
    intro k fromStart toStop
    rcases Nat.eq_or_lt_of_le fromStart with rfl | behind
    · exact if_pos ⟨before, wide⟩
    · exact rounds k behind toStop
  | case2 offset before narrow =>
    exact ⟨le_rfl, by omega, scrollRound?_eq_none.mpr (.inr (Nat.le_of_not_lt narrow)),
      fun k _ _ => by omega⟩
  | case3 offset behind =>
    exact ⟨le_rfl, by omega, scrollRound?_eq_none.mpr (.inl (Nat.le_of_not_lt behind)),
      fun k _ _ => by omega⟩

/-! ## Rows on display -/

end Picklist.View

namespace Picklist.Terminal

/-- Whether an area lies inside another one. -/
def Area.Encloses (a b : Area) : Prop :=
  (a.x ≤ b.x ∧ b.right ≤ a.right) ∧ a.y ≤ b.y ∧ b.bottom ≤ a.bottom

end Picklist.Terminal

namespace Picklist.View

open Terminal

namespace ArrangeView

variable (v : ArrangeView) (area : Area) (offset row : Nat)

/-- Where a row is painted in an area when the list is scrolled to `offset`; the area may cut it
off. -/
def rowPlace : Area :=
  match v.orientation with
  | .vertical => { x := area.x, y := area.y + (row - offset), width := area.width, height := 1 }
  | .horizontal =>
    { x := area.x + columnsBefore ((v.rows.drop offset).take (row - offset))
      y := area.y
      width := (v.rows[row]?.map fun entry => StyledLine.width entry.2).getD 0
      height := 1 }

/-- Whether a row is on display: its box is the one of the row with its place behind the first. -/
def Shows : Prop :=
  offset ≤ row ∧ ∃ entry, v.rows[row]? = some entry ∧
    (v.rowBoxes area offset)[row - offset]? = some ⟨entry.1, v.rowPlace area offset row⟩

/-- The last scroll position that does not go past the end of the list. -/
def lastOffset : Nat :=
  match v.orientation with
  | .vertical => v.rows.length - max area.height 1
  | .horizontal => v.rows.length - 1

variable {v area offset row}

/-- In a vertical list the rows on display are as many as the area is high, from the scroll position
on. -/
theorem shows_vertical_iff (vertical : v.orientation = .vertical) :
    v.Shows area offset row ↔
      offset ≤ row ∧ row < v.rows.length ∧ row < offset + area.height := by
  unfold Shows rowBoxes rowPlace
  rw [vertical]
  dsimp only
  refine and_congr_right fun fromStart => ?_
  rw [List.getElem?_map, List.getElem?_zipIdx]
  by_cases near : row < offset + area.height
  · rw [List.getElem?_take_of_lt (by omega), List.getElem?_drop, Nat.add_sub_of_le fromStart]
    by_cases inside : row < v.rows.length
    · simp [inside, near]
    · simp [inside]
  · rw [List.getElem?_take, if_neg (by omega)]
    simp [near]

/-- In a horizontal list a row is on display if the rows up to it, from the scroll position on, fit
into the area. -/
theorem shows_horizontal_iff (horizontal : v.orientation = .horizontal) :
    v.Shows area offset row ↔ offset ≤ row ∧ row < v.rows.length ∧ 0 < area.height ∧
      stripWidth (rowsUpTo v.rows offset row) ≤ area.width := by
  unfold Shows rowBoxes rowPlace
  rw [horizontal]
  dsimp only
  refine and_congr_right fun fromStart => ?_
  have strip : (v.rows.drop offset).take (row - offset + 1) = rowsUpTo v.rows offset row := by
    unfold rowsUpTo
    rw [List.drop_take]
    congr 1
    omega
  by_cases flat : area.height = 0
  · simp [flat]
  · rw [if_neg flat, getElem?_stripBoxes, List.getElem?_drop, Nat.add_sub_of_le fromStart, strip]
    by_cases inside : row < v.rows.length
    · simp [inside, Area.right]
      omega
    · simp [inside]

/-- A row is on display exactly if its place lies in the area. -/
theorem shows_iff_encloses : v.Shows area offset row ↔
    offset ≤ row ∧ row < v.rows.length ∧ area.Encloses (v.rowPlace area offset row) := by
  cases orientation : v.orientation with
  | vertical =>
    rw [shows_vertical_iff orientation]
    unfold Area.Encloses rowPlace Area.right Area.bottom
    rw [orientation]
    dsimp only
    omega
  | horizontal =>
    rw [shows_horizontal_iff orientation]
    refine and_congr_right fun fromStart => and_congr_right fun inside => ?_
    have split : rowsUpTo v.rows offset row =
        (v.rows.drop offset).take (row - offset) ++ [v.rows[row]] := by
      unfold rowsUpTo
      rw [List.drop_take, Nat.succ_sub fromStart, List.take_add_one, List.getElem?_drop,
        Nat.add_sub_of_le fromStart, List.getElem?_eq_getElem inside, Option.toList_some]
    have own : v.rows[row]? = some v.rows[row] := List.getElem?_eq_getElem inside
    unfold Area.Encloses rowPlace Area.right Area.bottom
    rw [orientation, split, stripWidth_concat, own]
    dsimp only [Option.map_some, Option.getD_some]
    omega

/-! ## Scrolling -/

/-- Without an active row only the end of the list bounds the scroll position. -/
theorem follow_inactive (inactive : v.activeRow = none) :
    v.follow area offset = min offset (v.lastOffset area) := by
  unfold follow lastOffset
  rw [inactive]
  cases v.orientation <;> rfl

/-- A vertical list is scrolled no further than it takes to show the active row. -/
theorem follow_vertical (vertical : v.orientation = .vertical) (active : v.activeRow = some row) :
    v.follow area offset =
      let start := min offset (v.lastOffset area)
      if row < start then row
      else if start + max area.height 1 ≤ row then row + 1 - max area.height 1
      else start := by
  unfold follow lastOffset
  rw [vertical, active]

/-- A horizontal list is scrolled forward until the active row fits, and back to it if it lies
before. -/
theorem follow_horizontal (horizontal : v.orientation = .horizontal)
    (active : v.activeRow = some row) (inside : row < v.rows.length) :
    v.follow area offset =
      scrollForward v.rows area.width row (min (min offset (v.lastOffset area)) row) := by
  unfold follow lastOffset
  rw [horizontal, active]
  exact if_pos inside

/-- The scroll position that a horizontal list is left at: it is the first one, from where the list
stood on, from which the active row is on display, or that row itself. -/
theorem follow_horizontal_rounds (horizontal : v.orientation = .horizontal)
    (active : v.activeRow = some row) (inside : row < v.rows.length) (area : Area) (offset : Nat) :
    let start := min (min offset (v.lastOffset area)) row
    let followed := v.follow area offset
    (start ≤ followed ∧ followed ≤ row) ∧
      scrollRound? v.rows area.width row followed = none ∧
      ∀ k, start ≤ k → k < followed → area.width < stripWidth (rowsUpTo v.rows k row) := by
  intro start followed
  obtain ⟨later, bound, ended, rounds⟩ := scrollForward_rounds v.rows area.width row start
  have same : followed = scrollForward v.rows area.width row start :=
    follow_horizontal horizontal active inside
  rw [← same] at later bound ended rounds
  have toRow : followed ≤ row := by omega
  refine ⟨⟨later, toRow⟩, ended, fun k fromStart before => ?_⟩
  by_contra fits
  have stopped : scrollRound? v.rows area.width row k = none :=
    scrollRound?_eq_none.mpr (.inr (Nat.le_of_not_lt fits))
  rw [rounds k fromStart before] at stopped
  cases stopped

/-- A list is not scrolled past the active row, nor past its end. -/
theorem follow_le_active (active : v.activeRow = some row) (inside : row < v.rows.length)
    (area : Area) (offset : Nat) :
    v.follow area offset ≤ row ∧ v.follow area offset ≤ v.lastOffset area := by
  cases orientation : v.orientation with
  | vertical =>
    have last : v.lastOffset area = v.rows.length - max area.height 1 := by
      unfold lastOffset
      rw [orientation]
    rw [follow_vertical orientation active]
    dsimp only
    split
    · omega
    · split <;> omega
  | horizontal =>
    have last : v.lastOffset area = v.rows.length - 1 := by
      unfold lastOffset
      rw [orientation]
    obtain ⟨⟨-, bound⟩, -, -⟩ := follow_horizontal_rounds orientation active inside area offset
    omega

/-- After scrolling the active row is on display unless it is too wide. -/
theorem shows_follow (active : v.activeRow = some row) (inside : row < v.rows.length)
    (tall : 0 < area.height)
    (narrow : v.orientation = .horizontal →
      (v.rowPlace area (v.follow area offset) row).width ≤ area.width) :
    v.Shows area (v.follow area offset) row := by
  have fromStart := (follow_le_active active inside area offset).1
  cases orientation : v.orientation with
  | vertical =>
    rw [shows_vertical_iff orientation]
    refine ⟨fromStart, inside, ?_⟩
    rw [follow_vertical orientation active]
    dsimp only
    split
    · omega
    · split <;> omega
  | horizontal =>
    obtain ⟨-, ended, -⟩ := follow_horizontal_rounds orientation active inside area offset
    rw [shows_horizontal_iff orientation]
    refine ⟨fromStart, inside, tall, ?_⟩
    rcases scrollRound?_eq_none.mp ended with alone | fits
    · -- the active row is the first one on display, and it fits by itself
      have first : v.follow area offset = row := by omega
      have own : v.rows[row]? = some v.rows[row] := List.getElem?_eq_getElem inside
      have width := narrow orientation
      unfold rowPlace at width
      rw [orientation, own] at width
      rw [first, rowsUpTo_self inside, stripWidth_singleton]
      exact width
    · exact fits

/-- From no scroll position nearer to where the list stood the active row is on display. -/
theorem follow_nearest (active : v.activeRow = some row) (inside : row < v.rows.length)
    {other : Nat} (shown : v.Shows area other row) :
    Nat.dist (min offset (v.lastOffset area)) (v.follow area offset) ≤
      Nat.dist (min offset (v.lastOffset area)) other := by
  unfold Nat.dist
  cases orientation : v.orientation with
  | vertical =>
    rw [shows_vertical_iff orientation] at shown
    rw [follow_vertical orientation active]
    dsimp only
    split
    · omega
    · split <;> omega
  | horizontal =>
    obtain ⟨⟨later, bound⟩, -, rounds⟩ :=
      follow_horizontal_rounds orientation active inside area offset
    rw [shows_horizontal_iff orientation] at shown
    obtain ⟨fromStart, -, -, fits⟩ := shown
    -- where the row is shown from a position it is shown from all later ones
    have stopped (k : Nat) (fromHere : min (min offset (v.lastOffset area)) row ≤ k)
        (beyond : other ≤ k) : v.follow area offset ≤ k := by
      by_contra before
      have wide := rounds k fromHere (by omega)
      have narrower := stripWidth_rowsUpTo_le beyond (by omega : k ≤ row) inside
      omega
    have here := stopped (max (min (min offset (v.lastOffset area)) row) other) (by omega)
      (by omega)
    omega

/-- Scrolling again changes nothing. -/
theorem follow_follow (own : ∀ row, v.activeRow = some row → row < v.rows.length) :
    v.follow area (v.follow area offset) = v.follow area offset := by
  cases active : v.activeRow with
  | none =>
    rw [follow_inactive active, follow_inactive active]
    omega
  | some row =>
    have inside := own row active
    obtain ⟨toRow, toEnd⟩ := follow_le_active active inside area offset
    cases orientation : v.orientation with
    | vertical =>
      have near : row < v.follow area offset + max area.height 1 := by
        rw [follow_vertical orientation active]
        dsimp only
        split
        · omega
        · split <;> omega
      generalize v.follow area offset = followed at toRow toEnd near
      rw [follow_vertical orientation active]
      dsimp only
      rw [if_neg (by omega), if_neg (by omega)]
      omega
    | horizontal =>
      obtain ⟨-, ended, -⟩ := follow_horizontal_rounds orientation active inside area offset
      generalize v.follow area offset = followed at toRow toEnd ended
      rw [follow_horizontal orientation active inside, Nat.min_eq_left toEnd,
        Nat.min_eq_left toRow]
      obtain ⟨later, bound, -, rounds⟩ := scrollForward_rounds v.rows area.width row followed
      by_contra moved
      have round := rounds followed le_rfl (by omega)
      rw [ended] at round
      cases round

end ArrangeView

/-- **Scrolling keeps the active row on display, and goes no further.** The list is not scrolled
past its active row; unless it is too wide that row has its box afterwards, which lies in the area;
from no scroll position nearer to the old one it is on display, so a list that shows it already
stays where it is unless it is scrolled past its end; and scrolling again changes nothing. Scrolling
forward takes one round for every row that it passes, whatever the rows. -/
theorem active_row_stays_on_display (v : ArrangeView) (area : Area) (offset : Nat)
    (own : ∀ row, v.activeRow = some row → row < v.rows.length) :
    let followed := v.follow area offset
    (∀ row, v.activeRow = some row →
      followed ≤ row ∧
      (0 < area.height →
        (v.orientation = .horizontal → (v.rowPlace area followed row).width ≤ area.width) →
        v.Shows area followed row ∧ area.Encloses (v.rowPlace area followed row)) ∧
      (∀ other, v.Shows area other row →
        Nat.dist (min offset (v.lastOffset area)) followed ≤
          Nat.dist (min offset (v.lastOffset area)) other) ∧
      (offset ≤ row → area.Encloses (v.rowPlace area offset row) → offset ≤ v.lastOffset area →
        followed = offset)) ∧
    v.follow area followed = followed ∧
    ∀ (rows : List (Nat × StyledLine)) (columns active start : Nat),
      let stop := scrollForward rows columns active start
      start ≤ stop ∧ stop ≤ max start active ∧ scrollRound? rows columns active stop = none ∧
        ∀ k, start ≤ k → k < stop → scrollRound? rows columns active k = some (k + 1) := by
  intro followed
  refine ⟨fun row active => ?_, ArrangeView.follow_follow own, scrollForward_rounds⟩
  have inside := own row active
  refine ⟨(ArrangeView.follow_le_active active inside area offset).1, ?shown, ?nearest, ?still⟩
  case shown =>
    intro tall narrow
    have shown := ArrangeView.shows_follow active inside tall narrow
    exact ⟨shown, (ArrangeView.shows_iff_encloses.mp shown).2.2⟩
  case nearest =>
    intro other shown
    exact ArrangeView.follow_nearest active inside shown
  case still =>
    intro fromStart within toEnd
    have shown := ArrangeView.shows_iff_encloses.mpr ⟨fromStart, inside, within⟩
    have nearest : Nat.dist (min offset (v.lastOffset area)) followed ≤
        Nat.dist (min offset (v.lastOffset area)) offset :=
      ArrangeView.follow_nearest active inside shown
    rw [Nat.min_eq_left toEnd, Nat.dist_self] at nearest
    exact (Nat.eq_of_dist_eq_zero (Nat.le_zero.mp nearest)).symm

/-- Four items side by side, the last of which has the focus. -/
def strip : ArrangeView where
  rows := [(0, [{ text := "  one" }]), (2, [{ text := "  three" }]), (1, [{ text := "• two" }]),
    (3, [{ text := "▶ four" }])]
  orientation := .horizontal
  status := ""
  dropHint := none
  activeRow := some 3

/-- In twenty columns the strip is scrolled by two rows, and then shows two. -/
theorem active_row_stays_on_display_strip :
    let area : Area := { x := 1, y := 2, width := 20, height := 1 }
    (∀ row, strip.activeRow = some row → row < strip.rows.length) ∧
      strip.follow area 0 = 2 ∧ strip.Shows area 2 3 ∧ strip.follow area 2 = 2 ∧
      strip.rowBoxes area 2 = [⟨1, { x := 1, y := 2, width := 5, height := 1 }⟩,
        ⟨3, { x := 9, y := 2, width := 6, height := 1 }⟩] := by
  intro area
  have own : ∀ row, strip.activeRow = some row → row < strip.rows.length := by
    intro row active
    obtain rfl := Option.some.inj active
    decide
  have followed : strip.follow area 0 = 2 := by decide +kernel
  have width : (strip.rowPlace area 2 3).width = 6 := by decide +kernel
  obtain ⟨shows, again, -⟩ := active_row_stays_on_display strip area 0 own
  rw [followed] at shows again
  obtain ⟨-, shown, -⟩ := shows 3 rfl
  have narrow : (strip.rowPlace area 2 3).width ≤ area.width := by
    rw [width]
    exact Nat.le_add_left 6 14
  have displayed := (shown Nat.one_pos fun _ => narrow).1
  exact ⟨own, followed, displayed, again, by decide +kernel⟩

end Picklist.View
