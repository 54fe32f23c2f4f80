import Picklist.Proofs.Session.Painted
import Picklist.Proofs.View.RowLines

/-!
# Clicks land on the rows that are seen

A drawn session remembers the box of every row, and looks up there which row is clicked. The pane
around the rows and the status line below them leave the rows alone, so a box shows the line of its
item whenever the rows are painted in their boxes: always in a vertical list, and in a horizontal
one as long as the lines from the scroll position up to the row are as wide as their glyphs. A line
feed in a label makes the rows behind it show further to the left than they are found.
-/

set_option autoImplicit false

namespace Picklist.Session

open Terminal View

/-! ## Where the rows are -/

/-- The area of the pane around the rows. -/
def listArea (orientation : Arrange.Orientation) (screen : Screen) : Area :=
  let area := screen.area.withoutSideColumns
  { area with height := (Sorting.layout orientation area.height).1 }

/-- The rows stand inside the frame of the list. -/
theorem inside_listArea (orientation : Arrange.Orientation) (screen : Screen) :
    (listArea orientation screen).inside = rowArea orientation screen := rfl

/-- A screen of one column has no room for a list. -/
theorem listArea_of_narrow {orientation : Arrange.Orientation} {screen : Screen}
    (narrow : screen.width < 2) : (listArea orientation screen).width = 0 := by
  unfold listArea Area.withoutSideColumns
  rw [if_pos (show screen.area.width < 2 from narrow)]

/-- A wider screen leaves one column free at each side of the list. -/
theorem listArea_of_wide {orientation : Arrange.Orientation} {screen : Screen}
    (wide : ¬ screen.width < 2) : listArea orientation screen =
      { x := 1, y := 0, width := screen.width - 2
        height := (Sorting.layout orientation screen.height).1 } := by
  unfold listArea Area.withoutSideColumns
  rw [if_neg (show ¬ screen.area.width < 2 from wide)]
  rfl

/-- The list gets no more rows than the screen has. -/
theorem layout_le (orientation : Arrange.Orientation) (height : Nat) :
    (Sorting.layout orientation height).1 ≤ height := by
  unfold Sorting.layout
  cases orientation <;> dsimp only <;> omega

/-- The rows are inside the border of the pane, and the pane is on the screen. -/
structure Framed (orientation : Arrange.Orientation) (screen : Screen) : Prop where
  left : (rowArea orientation screen).x = (listArea orientation screen).x + 1
  right : (rowArea orientation screen).right + 1 = (listArea orientation screen).right
  top : (rowArea orientation screen).y = (listArea orientation screen).y + 1
  bottom : (rowArea orientation screen).bottom + 1 = (listArea orientation screen).bottom
  width : (listArea orientation screen).right ≤ screen.width
  height : (listArea orientation screen).bottom ≤ screen.height

/-- An area for rows that has a cell is framed. -/
theorem framed {orientation : Arrange.Orientation} {screen : Screen}
    (wide : 0 < (rowArea orientation screen).width)
    (tall : 0 < (rowArea orientation screen).height) : Framed orientation screen := by
  rw [← inside_listArea] at wide tall
  unfold Area.inside at wide tall
  by_cases narrow : screen.width < 2
  · rw [listArea_of_narrow narrow] at wide
    cases wide
  · have list : listArea orientation screen = _ := listArea_of_wide narrow
    have high := layout_le orientation screen.height
    rw [list] at wide tall
    dsimp only at wide tall
    constructor <;>
      simp only [← inside_listArea, list, Area.inside, Area.right, Area.bottom] <;>
      omega

namespace Framed

variable {orientation : Arrange.Orientation} {width height : Nat}

/-- The pane before the rows and the status line after them leave the rows alone. -/
theorem showsLine (frame : Framed orientation (.blank width height)) {v : ArrangeView}
    {offset k : Nat} {box : RowBox} {entry : Nat × StyledLine}
    (there : (v.rowBoxes (rowArea orientation (.blank width height)) offset)[k]? = some box)
    (shown : v.rows[offset + k]? = some entry)
    (steady : v.orientation = .vertical ∨ ∀ j ≤ k, ∀ other, v.rows[offset + j]? = some other →
      other.2.Steady)
    (theme : Theme) (pane : Pane) {status : Area}
    (below : status.y = (listArea orientation (.blank width height)).bottom)
    (lines : List StyledLine) (style : Style) :
    ((((Screen.blank width height).paintPane (listArea orientation (.blank width height))
      pane).paintParagraph (rowArea orientation (.blank width height))
        (v.lines theme offset)).paintParagraph status lines style).ShowsLine box.area entry.2 := by
  have framing := Screen.changesOnly_paintPane (.blank width height)
    (listArea orientation (.blank width height)) pane
  rw [Screen.intersection_area frame.width frame.height] at framing
  obtain ⟨left, right, top, bottom, columns, rows⟩ := frame
  change _ ≤ width at columns
  change _ ≤ height at rows
  refine Screen.ShowsLine.of_changesOnly (ArrangeView.showsLine_of_box theme ?within ?blank there
    shown steady) (Screen.changesOnly_paintParagraph _ status lines style .left 0) ?below
  case within =>
    rw [framing.area]
    exact Screen.intersection_area (show _ ≤ width by omega) (show _ ≤ height by omega)
  case blank =>
    intro column row fromLeft toRight fromTop toBottom
    rw [framing.cell? column row (by unfold Screen.OnBorder; omega)]
    exact Screen.cell?_blank (by omega) (by omega)
  case below =>
    obtain ⟨high, -, -, inside⟩ := ArrangeView.inside_of_mem (List.mem_of_getElem? there)
    intro column later
    unfold Screen.InRows at later
    unfold Area.bottom at *
    omega

end Framed

variable {α : Type}

namespace Sorting

/-! ## What is painted -/

/-- A drawn session is a pane, the rows in it, and the status line below it. -/
theorem draw_screen (s : Sorting α) (screen : Screen) :
    let orientation := s.arranger.config.orientation
    ∃ (status : Area) (lines : List StyledLine) (style : Style),
      status.y = (listArea orientation screen).bottom ∧
      (s.draw screen).1 =
        ((screen.paintPane (listArea orientation screen) (pane s.theme s.title)).paintParagraph
          (rowArea orientation screen)
            (s.view.lines s.theme (s.draw screen).2.offset)).paintParagraph
            status lines style :=
  ⟨_, _, _, rfl, rfl⟩

/-- The row of a box shows in it. -/
theorem showsLine_draw (s : Sorting α) {width height k : Nat} {box : RowBox}
    {entry : Nat × StyledLine} (there : (s.draw (.blank width height)).2.boxes[k]? = some box)
    (shown : s.view.rows[(s.draw (.blank width height)).2.offset + k]? = some entry)
    (steady : s.arranger.config.orientation = .vertical ∨ ∀ j ≤ k, ∀ other,
      s.view.rows[(s.draw (.blank width height)).2.offset + j]? = some other → other.2.Steady) :
    (s.draw (.blank width height)).1.ShowsLine box.area entry.2 := by
  obtain ⟨status, lines, style, below, painted⟩ := s.draw_screen (.blank width height)
  have placed : box ∈ s.view.rowBoxes (rowArea s.arranger.config.orientation (.blank width height))
      (s.draw (.blank width height)).2.offset := List.mem_of_getElem? there
  obtain ⟨high, ⟨left, right⟩, top, bottom⟩ := ArrangeView.inside_of_mem placed
  unfold Area.right at right
  unfold Area.bottom at bottom
  rw [painted]
  by_cases wide : 0 < (rowArea s.arranger.config.orientation (.blank width height)).width
  · have tall : 0 < (rowArea s.arranger.config.orientation (.blank width height)).height := by
      omega
    exact (framed wide tall).showsLine there shown steady s.theme _ below lines style
  · -- without a column for the rows there is no cell to show anything
    intro j bound
    omega

/-! ## The boxes -/

/-- The line of the item with the given list index. -/
def line? (s : Sorting α) (index : Nat) : Option StyledLine :=
  s.arranger.items[index]?.map fun item =>
    itemLine s.theme (s.arranger.snapshot.role index) (s.label item.value)

/-- The cells of the box show the line of its item. -/
def ShowsIn (s : Sorting α) (screen : Screen) (box : RowBox) : Prop :=
  ∃ line, s.line? box.index = some line ∧ screen.ShowsLine box.area line

/-- The line of the item is as wide as its glyphs. -/
def Steady (s : Sorting α) (index : Nat) : Prop :=
  ∀ line, s.line? index = some line → line.Steady

/-- Every box belongs to the row with its place behind the first one on display, which is the row of
the item with its list index. -/
theorem row_of_box (s : Sorting α) {screen : Screen} {k : Nat} {box : RowBox}
    (there : (s.draw screen).2.boxes[k]? = some box) :
    ∃ entry, s.view.rows[(s.draw screen).2.offset + k]? = some entry ∧
      s.line? box.index = some entry.2 := by
  obtain ⟨⟨entry, shown, rfl⟩, -⟩ := ArrangeView.getElem?_rowBoxes_iff.mp there
  refine ⟨entry, shown, ?_⟩
  have listed := rows_getElem? s.theme s.label s.arranger ((s.draw screen).2.offset + k)
  obtain ⟨index, -, found⟩ := Option.bind_eq_some_iff.mp (listed.symm.trans shown)
  obtain ⟨item, member, rfl⟩ := Option.map_eq_some_iff.mp found
  unfold line?
  dsimp only
  rw [member, Option.map_some]

/-- A cell belongs to the box that contains it. -/
theorem hit_eq_some_iff (s : Sorting α) (screen : Screen) {column row : Nat} {box : RowBox} :
    (s.draw screen).2.hit column row = some box ↔
      box ∈ (s.draw screen).2.boxes ∧ box.area.contains column row = true := by
  unfold hit
  constructor
  · intro found
    have inside := List.find?_some found
    exact ⟨List.mem_of_find?_eq_some found, inside⟩
  · rintro ⟨member, inside⟩
    exact ArrangeView.find?_rowBoxes member inside

/-- A box shows its row if the rows up to it are steady. -/
theorem showsIn_draw (s : Sorting α) {width height k : Nat} {box : RowBox}
    (there : (s.draw (.blank width height)).2.boxes[k]? = some box)
    (steady : s.arranger.config.orientation = .vertical ∨
      ∀ shown ∈ (s.draw (.blank width height)).2.boxes.take (k + 1), s.Steady shown.index) :
    s.ShowsIn (s.draw (.blank width height)).1 box := by
  obtain ⟨entry, shown, line⟩ := s.row_of_box there
  refine ⟨entry.2, line, s.showsLine_draw there shown (steady.imp_right ?_)⟩
  intro abreast j upTo other next
  have bound : j < (s.draw (.blank width height)).2.boxes.length :=
    Nat.lt_of_le_of_lt upTo (List.getElem?_eq_some_iff.mp there).1
  obtain ⟨same, found, line⟩ := s.row_of_box (List.getElem?_eq_getElem bound)
  rw [next] at found
  obtain rfl := Option.some.inj found
  exact abreast _ (List.mem_take_iff_getElem.mpr ⟨j, by omega, rfl⟩) _ line

end Sorting

/-- Labels side by side. -/
def abreast (labels : List String) : Sorting String where
  arranger :=
    { config := { orientation := .horizontal }
      items := labels.map fun label => ⟨label, true⟩ }
  label := id

end Picklist.Session
