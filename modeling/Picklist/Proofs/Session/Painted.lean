import Picklist.Proofs.View.RowBoxes
import Picklist.Session.Sorting

/-!
# Sorting sessions on the screen

A session reacts to keys, to the mouse and to the passing of time, and is painted now and then. Only
painting moves the rows: it scrolls the list and remembers where each row is. So between two
paintings a cell stands for the same row, and as long as no item is moved by key and the order does
not change this is the row of the same item. Painting again on a screen of the same size while an
item is dragged leaves all rows where they are.
-/

set_option autoImplicit false

namespace Picklist.Session

open Terminal
open Arrange (Arranger SameList)

variable {α : Type}

/-- What happens to a sorting session. -/
inductive Event where
  | key (key : Input.Key) (now : Nat)
  | mouse (action : MouseAction) (column row now : Nat)
  | tick (now : Nat)
  | draw (screen : Screen)

/-- The area that holds the rows. -/
def rowArea (orientation : Arrange.Orientation) (screen : Screen) : Area :=
  let area := screen.area.withoutSideColumns
  Area.inside { area with height := (Sorting.layout orientation area.height).1 }

namespace Sorting

/-- The session after an event. -/
def perform (s : Sorting α) : Event → Sorting α
  | .key key now => (s.handleKey key now).2
  | .mouse action column row now => s.handleMouse action column row now
  | .tick now => s.tick now
  | .draw screen => (s.draw screen).2

/-- The session after a number of events. -/
def run (s : Sorting α) (events : List Event) : Sorting α :=
  events.foldl perform s

/-- A run begins with its first event. -/
theorem run_cons (s : Sorting α) (event : Event) (rest : List Event) :
    s.run (event :: rest) = (s.perform event).run rest := rfl

/-- What the session paints. -/
def view (s : Sorting α) : View.ArrangeView :=
  View.arrangeView s.arranger.snapshot s.theme s.label

/-- Drawing frames the rows, paints the lines of those on display and keeps their boxes. -/
theorem draw_eq (s : Sorting α) (screen : Screen) :
    let area := rowArea s.arranger.config.orientation screen
    (s.draw screen).2 =
      { s with
        offset := s.view.follow area s.offset
        boxes := s.view.rowBoxes area (s.view.follow area s.offset) } := rfl

/-- The list index of the item in whose row a cell of the area lies. -/
def rowAt? (s : Sorting α) (area : Area) (column row : Nat) : Option Nat :=
  let index := s.offset + (row - area.y)
  if area.contains column row ∧ index < s.arranger.items.length then some index else none

/-! ## Between two paintings -/

/-- A session with the same settings and the same rows on the screen. -/
structure SameRows (s t : Sorting α) : Prop where
  config : t.arranger.config = s.arranger.config
  offset : t.offset = s.offset
  boxes : t.boxes = s.boxes

/-- Having the same rows carries over. -/
theorem SameRows.trans {s t u : Sorting α} (h : SameRows s t) (k : SameRows t u) : SameRows s u :=
  ⟨k.config.trans h.config, k.offset.trans h.offset, k.boxes.trans h.boxes⟩

/-- Keys leave the painted rows alone. -/
theorem sameRows_handleKey (s : Sorting α) (key : Input.Key) (now : Nat) :
    SameRows s (s.handleKey key now).2 := by
  have applied (key : Arrange.Key) : SameRows s (s.apply key now) :=
    ⟨Arranger.perform_config s.arranger (.press key now), rfl, rfl⟩
  have committed : SameRows s (s.commit now) := ⟨Arranger.commit_config s.arranger now, rfl, rfl⟩
  have same : SameRows s s := ⟨rfl, rfl, rfl⟩
  unfold handleKey
  split
  · exact same
  · split
    · exact committed
    · split
      · exact same
      · exact applied .escape
    · split
      · exact applied _
      · exact same

/-- The pointer leaves the painted rows alone. -/
theorem sameRows_handleMouse (s : Sorting α) (action : MouseAction) (column row now : Nat) :
    SameRows s (s.handleMouse action column row now) := by
  have same : SameRows s s := ⟨rfl, rfl, rfl⟩
  unfold handleMouse
  cases action with
  | press =>
    dsimp only
    split
    · exact ⟨(Arranger.sameList_beginDrag s.arranger _).config, rfl, rfl⟩
    · exact same
  | drag =>
    dsimp only
    split
    · exact ⟨(Arranger.sameList_hover s.arranger _ now).config, rfl, rfl⟩
    · exact same
  | release => exact ⟨Arranger.commit_config s.arranger now, rfl, rfl⟩
  | other => exact same

/-- Only painting moves the rows. -/
theorem sameRows_run (s : Sorting α) {events : List Event}
    (undrawn : ∀ event ∈ events, ∀ screen, event ≠ .draw screen) : SameRows s (s.run events) := by
  induction events generalizing s with
  | nil => exact ⟨rfl, rfl, rfl⟩
  | cons event rest ih =>
    obtain ⟨first, others⟩ := List.forall_mem_cons.mp undrawn
    refine SameRows.trans ?_ (ih (s.perform event) others)
    cases event with
    | key key now => exact s.sameRows_handleKey key now
    | mouse action column row now => exact s.sameRows_handleMouse action column row now
    | tick now => exact ⟨(Arranger.sameList_tick s.arranger now).config, rfl, rfl⟩
    | draw screen => exact absurd rfl (first screen)

/-! ## Rows on the screen -/

/-- The items of a vertical list are on the screen in their order, from the scroll position on. -/
structure Painted (screen : Screen) (s : Sorting α) : Prop where
  vertical : s.arranger.config.orientation = .vertical
  settled : s.offset ≤ s.arranger.items.length - max (rowArea .vertical screen).height 1
  boxes : s.boxes = View.columnBoxes (List.range s.arranger.items.length)
    (rowArea .vertical screen) s.offset

variable {s t : Sorting α} {screen : Screen}

/-- While nothing is grabbed there is a row for each item. -/
theorem rows_length (ungrabbed : ∀ source drop, s.arranger.gesture ≠ .grabbed source drop) :
    s.view.rows.length = s.arranger.items.length := by
  have order := View.map_fst_rows s.theme s.label ungrabbed
  rw [← List.length_range (n := s.arranger.items.length), ← order, List.length_map]
  rfl

/-- Painting shows the items in their order unless one is moved by key. -/
theorem painted_draw (vertical : s.arranger.config.orientation = .vertical)
    (ungrabbed : ∀ source drop, s.arranger.gesture ≠ .grabbed source drop) (screen : Screen) :
    Painted screen (s.draw screen).2 := by
  have upright : s.view.orientation = .vertical := vertical
  have active (row : Nat) (shown : s.view.activeRow = some row) : row < s.arranger.items.length :=
    View.activeRow_lt s.theme s.label ungrabbed shown
  rw [draw_eq, vertical]
  refine ⟨vertical, ?_, ?_⟩
  · exact View.follow_le upright _ (rows_length ungrabbed) active _
  · dsimp only
    rw [View.rowBoxes_vertical upright]
    exact congrArg (View.columnBoxes · _ _) (View.map_fst_rows s.theme s.label ungrabbed)

namespace Painted

/-- What was painted stays so while rows and items stay. -/
theorem congr (h : Painted screen s) (same : SameRows s t)
    (items : t.arranger.items = s.arranger.items) : Painted screen t where
  vertical := by rw [same.config, h.vertical]
  settled := by rw [same.offset, items]; exact h.settled
  boxes := by rw [same.boxes, same.offset, items]; exact h.boxes

/-- A cell belongs to the row that is painted there. -/
theorem hit_eq (h : Painted screen s) (column row : Nat) :
    s.hit column row = (s.rowAt? (rowArea .vertical screen) column row).map fun index =>
      ⟨index, { rowArea .vertical screen with y := row, height := 1 }⟩ := by
  unfold hit rowAt?
  rw [h.boxes, View.find?_columnBoxes]
  by_cases inside : (rowArea .vertical screen).contains column row = true
  · by_cases filled : s.offset + (row - (rowArea .vertical screen).y) < s.arranger.items.length
    · simp [inside, filled]
    · simp [inside, filled]
  · simp [inside]

/-- Painting during a drag on a screen of the same size changes nothing. -/
theorem redraw (h : Painted screen s) {source drop : Nat}
    (dragging : s.arranger.gesture = .dragging source drop) {other : Screen}
    (size : other.area = screen.area) : (s.draw other).2 = s := by
  have ungrabbed (source drop : Nat) : s.arranger.gesture ≠ .grabbed source drop := by
    rw [dragging]
    exact Arrange.Gesture.noConfusion
  have upright : s.view.orientation = .vertical := h.vertical
  have inactive : s.view.activeRow = none := by
    unfold view View.arrangeView Arranger.snapshot
    rw [dragging]
  have area : rowArea .vertical other = rowArea .vertical screen := by
    unfold rowArea
    rw [size]
  have still : s.view.follow (rowArea .vertical screen) s.offset = s.offset :=
    View.follow_of_inactive upright _ (rows_length ungrabbed) inactive h.settled
  have boxes : s.view.rowBoxes (rowArea .vertical screen) s.offset = s.boxes := by
    rw [View.rowBoxes_vertical upright, h.boxes]
    exact congrArg (View.columnBoxes · _ _) (View.map_fst_rows s.theme s.label ungrabbed)
  rw [draw_eq, h.vertical, area, still, boxes]

end Painted

end Sorting

end Picklist.Session
