import Mathlib.Data.List.Basic
import Picklist.Terminal.Pane
import Picklist.Terminal.Paragraph

/-!
# What painting changes

Painting changes cells one at a time, so what it leaves alone is known from where these cells are: a
style changes the cells of its area, text those of its rows, and a pane those of its border. The
size of the screen stays the same.
-/

set_option autoImplicit false

namespace Picklist.Terminal

/-- The columns that glyphs take side by side. -/
def columnsOf (glyphs : List Glyph) : Nat := (glyphs.map Glyph.width).foldr (· + ·) 0

/-- A row of glyphs is as wide as the first and the others. -/
theorem columnsOf_cons (g : Glyph) (rest : List Glyph) :
    columnsOf (g :: rest) = g.width + columnsOf rest := rfl

namespace Screen

/-- The screen keeps its size, and only cells of the region have changed. -/
structure ChangesOnly (region : Nat → Nat → Prop) (s t : Screen) : Prop where
  area : t.area = s.area
  cell? : ∀ column row, ¬ region column row → t.cell? column row = s.cell? column row

namespace ChangesOnly

variable {region region' : Nat → Nat → Prop} {s t u : Screen}

/-- A screen is changed nowhere when it is left as it is. -/
theorem refl (s : Screen) : ChangesOnly region s s := ⟨rfl, fun _ _ _ => rfl⟩

/-- Two changes inside a region are one. -/
theorem trans (h : ChangesOnly region s t) (k : ChangesOnly region t u) :
    ChangesOnly region s u where
  area := k.area.trans h.area
  cell? column row outside := (k.cell? column row outside).trans (h.cell? column row outside)

/-- A change inside a region is one inside a wider region. -/
theorem mono (h : ChangesOnly region s t) (wider : ∀ column row, region column row →
    region' column row) : ChangesOnly region' s t where
  area := h.area
  cell? column row outside := h.cell? column row fun inside => outside (wider column row inside)

/-- What every step leaves alone is left alone by all of them. -/
theorem foldl {β : Type} {entries : List β} {step : Screen → β → Screen}
    (each : ∀ s, ∀ entry ∈ entries, ChangesOnly region s (step s entry)) (s : Screen) :
    ChangesOnly region s (entries.foldl step s) := by
  induction entries generalizing s with
  | nil => exact refl s
  | cons entry rest ih =>
    obtain ⟨first, others⟩ : (∀ s, ChangesOnly region s (step s entry)) ∧
        ∀ s, ∀ entry ∈ rest, ChangesOnly region s (step s entry) :=
      ⟨fun s => each s entry List.mem_cons_self,
        fun s entry member => each s entry (List.mem_cons_of_mem _ member)⟩
    exact (first s).trans (ih others (step s entry))

end ChangesOnly

variable {region : Nat → Nat → Prop}

/-! ## Cells -/

/-- Modifying a cell leaves the others alone. -/
theorem cell?_modify (s : Screen) (column row : Nat) (f : Cell → Cell) (c r : Nat) :
    (s.modify column row f).cell? c r =
      if c = column ∧ r = row then (s.cell? c r).map f else s.cell? c r := by
  show (s.rows.modify row (·.modify column f))[r]?.bind (·[c]?) = _
  have there : s.cell? c r = s.rows[r]?.bind (·[c]?) := rfl
  rw [there, Array.getElem?_modify]
  by_cases sameRow : row = r
  · subst sameRow
    cases s.rows[row]? with
    | none => simp
    | some cells =>
      by_cases sameColumn : column = c
      · simp [sameColumn, Array.getElem?_modify]
      · simp [sameColumn, Ne.symm sameColumn, Array.getElem?_modify]
  · simp [sameRow, Ne.symm sameRow]

/-- Putting a symbol into a cell leaves the others alone. -/
theorem cell?_put (s : Screen) (column row : Nat) (symbol : List Char) (style : Style) (c r : Nat) :
    (s.put column row symbol style).cell? c r =
      if c = column ∧ r = row then
        (s.cell? c r).map fun cell => { cell with symbol }.restyle style
      else s.cell? c r :=
  cell?_modify s column row _ c r

/-- The cells of a blank screen are blank. -/
theorem cell?_blank {width height column row : Nat} (left : column < width) (above : row < height) :
    (blank width height).cell? column row = some {} := by
  simp [cell?, blank, left, above]

/-- Modifying a cell inside a region changes nothing outside. -/
theorem changesOnly_modify (s : Screen) {column row : Nat} (inside : region column row)
    (f : Cell → Cell) : ChangesOnly region s (s.modify column row f) where
  area := rfl
  cell? c r outside := by
    rw [cell?_modify, if_neg]
    rintro ⟨rfl, rfl⟩
    exact outside inside

/-- Putting a symbol inside a region changes nothing outside. -/
theorem changesOnly_put (s : Screen) {column row : Nat} (inside : region column row)
    (symbol : List Char) (style : Style) : ChangesOnly region s (s.put column row symbol style) :=
  changesOnly_modify s inside _

/-! ## Areas -/

/-- An area on the screen is not cut off. -/
theorem intersection_area {s : Screen} {area : Area} (width : area.right ≤ s.width)
    (height : area.bottom ≤ s.height) : area.intersection s.area = area := by
  obtain ⟨x, y, columns, rows⟩ := area
  unfold Area.right at width
  unfold Area.bottom at height
  unfold Area.intersection Area.right Area.bottom Screen.area
  dsimp only at width height ⊢
  rw [Area.mk.injEq]
  omega

/-- The same is done to the cells of an area, one after the other. -/
theorem changesOnly_cells (s : Screen) {area : Area} {step : Screen → Nat → Nat → Screen}
    (each : ∀ s column row, area.x ≤ column → column < area.right → area.y ≤ row →
      row < area.bottom → ChangesOnly region s (step s column row)) :
    ChangesOnly region s ((List.range' area.y area.height).foldl
      (fun s row => (List.range' area.x area.width).foldl (fun s column => step s column row) s)
      s) := by
  refine .foldl (fun s row rowMember => .foldl (fun s column columnMember => ?_) s) s
  obtain ⟨above, below⟩ := List.mem_range'_1.mp rowMember
  obtain ⟨left, right⟩ := List.mem_range'_1.mp columnMember
  exact each s column row left right above below

/-- Restyling an area inside a region changes nothing outside. -/
theorem changesOnly_restyle (s : Screen) {area : Area}
    (inside : ∀ column row, area.x ≤ column → column < area.right → area.y ≤ row →
      row < area.bottom → region column row) (style : Style) :
    ChangesOnly region s (s.restyle area style) :=
  changesOnly_cells s fun s column row left right above below =>
    changesOnly_modify s (inside column row left right above below) _

/-- Filling an area inside a region changes nothing outside. -/
theorem changesOnly_putAll (s : Screen) {area : Area}
    (inside : ∀ column row, area.x ≤ column → column < area.right → area.y ≤ row →
      row < area.bottom → region column row) (symbol : List Char) (style : Style) :
    ChangesOnly region s (s.putAll area symbol style) :=
  changesOnly_cells s fun s column row left right above below =>
    changesOnly_put s (inside column row left right above below) symbol style

/-- A style that sets nothing leaves a cell as it is. -/
theorem restyle_nothing (c : Cell) : c.restyle {} = c := by
  simp [Cell.restyle, Modifiers.union, Modifiers.diff]

/-- The style that sets nothing changes nothing. -/
theorem changesOnly_restyle_nothing (s : Screen) (area : Area) :
    ChangesOnly (fun _ _ => False) s (s.restyle area {}) := by
  refine changesOnly_cells s fun s column row _ _ _ _ => ⟨rfl, fun c r _ => ?_⟩
  rw [cell?_modify]
  simp only [restyle_nothing]
  cases s.cell? c r <;> simp

/-! ## Text -/

/-- The cells of a row. -/
def InRow (row : Nat) (_ r : Nat) : Prop := r = row

/-- The cells in the rows of an area, whatever their column. -/
def InRows (area : Area) (_ row : Nat) : Prop := area.y ≤ row ∧ row < area.bottom

/-- Glyphs change only the columns that they take. -/
theorem changesOnly_putGlyphs (s : Screen) (column row : Nat) (glyphs : List Glyph) :
    ChangesOnly (fun c r => r = row ∧ column ≤ c ∧ c < column + columnsOf glyphs) s
      (s.putGlyphs column row glyphs) := by
  induction glyphs generalizing s column with
  | nil => exact .refl s
  | cons g rest ih =>
    rw [putGlyphs, columnsOf_cons]
    split
    · rename_i flat
      rw [flat, Nat.zero_add]
      exact ih s column
    · have here : ChangesOnly
          (fun c r => r = row ∧ column ≤ c ∧ c < column + (g.width + columnsOf rest)) s
          (s.put column row g.symbol g.style) :=
        changesOnly_put s ⟨rfl, Nat.le_refl column, by omega⟩ g.symbol g.style
      refine here.trans ((ih _ _).mono ?_)
      rintro c r ⟨rfl, behind, before⟩
      exact ⟨rfl, by omega, by omega⟩

/-- A line changes only its row. -/
theorem changesOnly_paintLine (s : Screen) (area : Area) (row : Nat) (alignment : Alignment)
    (shift : Nat) (line : StyledLine) :
    ChangesOnly (InRow row) s (s.paintLine area row alignment shift line) :=
  (changesOnly_putGlyphs s _ row _).mono fun _ _ inside => inside.1

/-- A paragraph changes no row outside its area. -/
theorem changesOnly_paintParagraph (s : Screen) (area : Area) (lines : List StyledLine)
    (base : Style) (alignment : Alignment) (shift : Nat) :
    ChangesOnly (InRows area) s (s.paintParagraph area lines base alignment shift) := by
  have rows (column row : Nat) (above : (area.intersection s.area).y ≤ row)
      (below : row < (area.intersection s.area).bottom) : InRows area column row := by
    unfold Area.intersection Area.bottom at above below
    unfold InRows Area.bottom
    dsimp only at above below
    omega
  have styled : ChangesOnly (InRows area) s (s.restyle (area.intersection s.area) base) :=
    changesOnly_restyle s (fun column row _ _ above below => rows column row above below) base
  unfold paintParagraph
  dsimp only
  split
  · exact styled
  · refine styled.trans (.foldl (fun s entry member => ?_) _)
    obtain ⟨line, offset⟩ := entry
    have bound := (List.mem_zipIdx member).2.1
    rw [Nat.zero_add, List.length_take] at bound
    refine (changesOnly_paintLine s _ _ alignment shift line).mono ?_
    rintro column row rfl
    exact rows column _ (Nat.le_add_right _ _) (Nat.add_lt_add_left (by omega) _)

/-- The glyphs of a segment change only their row. -/
theorem changesOnly_putSegmentGlyphs (s : Screen) (start row right column : Nat) (first : Bool)
    (glyphs : List Glyph) :
    ChangesOnly (InRow row) s (s.putSegmentGlyphs start row right column first glyphs) := by
  induction glyphs generalizing s column first with
  | nil => exact .refl s
  | cons g rest ih =>
    have changed (s : Screen) (column : Nat) (f : Cell → Cell) :
        ChangesOnly (InRow row) s (s.modify column row f) :=
      changesOnly_modify s (show InRow row column row from rfl) f
    have cleared (s : Screen) (columns : List Nat) :
        ChangesOnly (InRow row) s (columns.foldl (fun s c => s.clear c row) s) :=
      .foldl (fun s column _ => changed s column _) s
    rw [putSegmentGlyphs]
    dsimp only
    split
    · exact .refl s
    · refine ChangesOnly.trans ?_ ((cleared _ _).trans (ih _ _ _))
      split
      · exact changed s column _
      · split
        · exact changed s column _
        · split
          · exact changed s (column - 1) _
          · exact changed s column _

/-- Segments change only their row. -/
theorem changesOnly_putSegments (s : Screen) (row right column : Nat) (line : StyledLine) :
    ChangesOnly (InRow row) s (s.putSegments row right column line) := by
  induction line generalizing s column with
  | nil => exact .refl s
  | cons segment rest ih =>
    rw [putSegments]
    split
    · exact ih s column
    · split
      · exact .refl s
      · exact (changesOnly_putSegmentGlyphs s column row right column true _).trans (ih _ _)

/-- A line of segments changes only the first row of its area. -/
theorem changesOnly_paintSegments (s : Screen) (area : Area) (line : StyledLine) :
    ChangesOnly (InRow area.y) s (s.paintSegments area line) := by
  have top : (area.intersection s.area).y = area.y := Nat.max_zero area.y
  unfold paintSegments
  dsimp only
  split
  · exact .refl s
  · rw [top]
    exact changesOnly_putSegments s area.y _ _ line

/-! ## Panes -/

/-- Whether the cell lies in an outermost row or column of the area. -/
def OnBorder (area : Area) (column row : Nat) : Prop :=
  column = area.x ∨ column + 1 = area.right ∨ row = area.y ∨ row + 1 = area.bottom

/-- A border changes only the cells on it. -/
theorem changesOnly_paintBorder (s : Screen) {area : Area} (filled : area.isEmpty = false)
    (style : Style) : ChangesOnly (OnBorder area) s (s.paintBorder area style) := by
  have size : 0 < area.width ∧ 0 < area.height := by
    simp only [Area.isEmpty, Bool.or_eq_false_iff, beq_eq_false_iff_ne] at filled
    omega
  unfold paintBorder
  refine .trans (changesOnly_putAll _ ?left _ _) (.trans (changesOnly_putAll _ ?top _ _)
    (.trans (changesOnly_putAll _ ?right _ _) (.trans (changesOnly_putAll _ ?bottom _ _)
      (.trans (changesOnly_put _ ?bottomRight _ _) (.trans (changesOnly_put _ ?topRight _ _)
        (.trans (changesOnly_put _ ?bottomLeft _ _) (changesOnly_put _ ?topLeft _ _)))))))
  case left | top | right | bottom =>
    intro column row fromLeft toRight fromTop toBottom
    simp only [OnBorder, Area.right, Area.bottom] at *
    omega
  case bottomRight | topRight | bottomLeft | topLeft =>
    unfold OnBorder Area.right Area.bottom
    omega

/-- A pane leaves alone what is inside its border. -/
theorem changesOnly_paintPane (s : Screen) (area : Area) (pane : Pane) :
    ChangesOnly (OnBorder (area.intersection s.area)) s (s.paintPane area pane) := by
  unfold paintPane
  dsimp only
  cases filled : (area.intersection s.area).isEmpty with
  | true => exact .refl s
  | false =>
    generalize area.intersection s.area = edge at filled
    have top (column row : Nat) (same : InRow edge.y column row) : OnBorder edge column row :=
      .inr (.inr (.inl same))
    rw [if_neg Bool.false_ne_true]
    refine (changesOnly_paintBorder s filled pane.borderStyle).trans ?_
    refine ChangesOnly.trans ?_ ((changesOnly_paintSegments _ _ _).mono top)
    refine changesOnly_restyle _ (fun column row _ _ above below => ?_) _
    exact top column row (Nat.le_antisymm (Nat.le_of_lt_succ below) above)

end Screen

end Picklist.Terminal
