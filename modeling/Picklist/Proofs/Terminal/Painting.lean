import Picklist.Proofs.Terminal.Changes

/-!
# Lines on the screen

Painting a line puts every glyph into a cell of its own, and leaves the cells behind a wide one as
they were. So on blank cells a line shows as its glyphs, each followed by blanks as far as it is
wide. A paragraph shows one line in each row of its area, as far as the line fits.
-/

set_option autoImplicit false

namespace Picklist.Terminal

/-! ## The cells of a line -/

/-- The cells that a glyph fills: its symbol, and blanks behind it as far as it is wide. A glyph
without width fills none. -/
def Glyph.cells (g : Glyph) : List Cell :=
  match g.width with
  | 0 => []
  | columns + 1 => ({ symbol := g.symbol } : Cell).restyle g.style :: List.replicate columns {}

/-- The cells that glyphs fill side by side. -/
def cellsOf (glyphs : List Glyph) : List Cell := glyphs.flatMap Glyph.cells

/-- A glyph has as many cells as it is wide. -/
theorem Glyph.length_cells (g : Glyph) : g.cells.length = g.width := by
  unfold cells
  split <;> simp [*]

/-- The cells of a row of glyphs are those of the first and of the others. -/
theorem cellsOf_cons (g : Glyph) (rest : List Glyph) :
    cellsOf (g :: rest) = g.cells ++ cellsOf rest := List.flatMap_cons

/-- The cells of two rows of glyphs, one after the other, are those of both. -/
theorem cellsOf_append (glyphs glyphs' : List Glyph) :
    cellsOf (glyphs ++ glyphs') = cellsOf glyphs ++ cellsOf glyphs' := List.flatMap_append

/-- Two rows of glyphs, one after the other, are as wide as both. -/
theorem columnsOf_append (glyphs glyphs' : List Glyph) :
    columnsOf (glyphs ++ glyphs') = columnsOf glyphs + columnsOf glyphs' := by
  induction glyphs with
  | nil => exact (Nat.zero_add _).symm
  | cons g rest ih => rw [List.cons_append, columnsOf_cons, columnsOf_cons, ih, Nat.add_assoc]

/-- A row of glyphs has as many cells as it is wide. -/
theorem length_cellsOf (glyphs : List Glyph) : (cellsOf glyphs).length = columnsOf glyphs := by
  induction glyphs with
  | nil => rfl
  | cons g rest ih => rw [cellsOf_cons, List.length_append, ih, g.length_cells, columnsOf_cons]

/-- The cells that show a line in a number of columns: its glyphs as far as they fit, and blanks. -/
def StyledLine.cells (line : StyledLine) (columns : Nat) : List Cell :=
  let shown := fitGlyphs columns 0 0 (line.glyphs {})
  cellsOf shown ++ List.replicate (columns - columnsOf shown) ({} : Cell)

/-! ## Glyphs that fit -/

/-- The glyphs that fit are no wider than the room for them. -/
theorem columnsOf_fitGlyphs {columns used : Nat} (room : used ≤ columns) (glyphs : List Glyph) :
    used + columnsOf (fitGlyphs columns used 0 glyphs) ≤ columns := by
  induction glyphs generalizing used with
  | nil => exact room
  | cons g rest ih =>
    rw [fitGlyphs]
    split
    · exact ih room
    · split
      · exact room
      · rename_i fits
        rw [if_pos rfl, columnsOf_cons, ← Nat.add_assoc]
        exact ih (Nat.le_of_not_lt fits)

/-- Glyphs for which there is room fit, and leave the rest of the columns to the others. -/
theorem fitGlyphs_append {columns used : Nat} {glyphs : List Glyph}
    (room : used + columnsOf glyphs ≤ columns) (others : List Glyph) :
    fitGlyphs columns used 0 (glyphs ++ others) =
      glyphs ++ fitGlyphs columns (used + columnsOf glyphs) 0 others := by
  induction glyphs generalizing used with
  | nil => rfl
  | cons g rest ih =>
    rw [columnsOf_cons, ← Nat.add_assoc] at room ⊢
    rw [List.cons_append, fitGlyphs, if_neg (by omega), if_neg (by omega), if_pos rfl, ih room,
      List.cons_append]

/-- Where there is room all glyphs fit. -/
theorem fitGlyphs_of_room {columns : Nat} {glyphs : List Glyph}
    (room : columnsOf glyphs ≤ columns) :
    fitGlyphs columns 0 0 glyphs = glyphs := by
  have fit : fitGlyphs columns 0 0 (glyphs ++ []) =
      glyphs ++ fitGlyphs columns (0 + columnsOf glyphs) 0 [] :=
    fitGlyphs_append (by rwa [Nat.zero_add]) []
  rwa [List.append_nil, fitGlyphs, List.append_nil] at fit

/-- A line whose glyphs take all columns shows as its glyphs. -/
theorem StyledLine.cells_of_exact {line : StyledLine} {columns : Nat}
    (filled : columnsOf (line.glyphs {}) = columns) :
    line.cells columns = cellsOf (line.glyphs {}) := by
  unfold cells
  rw [fitGlyphs_of_room (Nat.le_of_eq filled)]
  dsimp only
  rw [filled, Nat.sub_self]
  exact List.append_nil _

namespace Screen

/-! ## Painting -/

/-- The first row of the area shows the line. -/
def ShowsLine (s : Screen) (area : Area) (line : StyledLine) : Prop :=
  ∀ k < area.width, s.cell? (area.x + k) area.y = (line.cells area.width)[k]?

/-- A glyph put on blank cells fills them. -/
theorem cell?_put_glyph {s : Screen} {column row : Nat} {g : Glyph}
    (blank : ∀ k < g.width, s.cell? (column + k) row = some {}) {k : Nat} (own : k < g.width) :
    (s.put column row g.symbol g.style).cell? (column + k) row = g.cells[k]? := by
  rw [cell?_put, blank k own, Glyph.cells]
  cases width : g.width with
  | zero => omega
  | succ columns =>
    cases k with
    | zero => simp
    | succ k =>
      rw [if_neg (by omega), List.getElem?_cons_succ, List.getElem?_replicate, if_pos (by omega)]

/-- Glyphs put side by side on blank cells fill them. -/
theorem cell?_putGlyphs {s : Screen} {column row : Nat} {glyphs : List Glyph}
    (blank : ∀ k < columnsOf glyphs, s.cell? (column + k) row = some {}) {k : Nat}
    (bound : k < columnsOf glyphs) :
    (s.putGlyphs column row glyphs).cell? (column + k) row = (cellsOf glyphs)[k]? := by
  induction glyphs generalizing s column k with
  | nil => cases bound
  | cons g rest ih =>
    rw [columnsOf_cons] at blank bound
    rw [putGlyphs, cellsOf_cons, List.getElem?_append, g.length_cells]
    split
    · rename_i flat
      rw [flat, Nat.zero_add] at blank bound
      rw [flat, if_neg (Nat.not_lt_zero k), Nat.sub_zero]
      exact ih blank bound
    · by_cases own : k < g.width
      · rw [if_pos own, (changesOnly_putGlyphs _ (column + g.width) row rest).cell? _ _ (by omega)]
        exact cell?_put_glyph (fun i inside => blank i (by omega)) own
      · obtain ⟨j, rfl⟩ := Nat.exists_eq_add_of_le (Nat.le_of_not_lt own)
        rw [if_neg own, Nat.add_sub_cancel_left, ← Nat.add_assoc]
        refine ih (fun i inside => ?_) (by omega)
        rw [cell?_put, if_neg (by omega), Nat.add_assoc]
        exact blank _ (by omega)

variable {s : Screen} {area : Area}

/-- A line painted on blank cells is shown there. -/
theorem showsLine_paintLine {row : Nat}
    (blank : ∀ column, area.x ≤ column → column < area.right → s.cell? column row = some {})
    (line : StyledLine) :
    (s.paintLine area row .left 0 line).ShowsLine { area with y := row, height := 1 } line := by
  intro k bound
  dsimp only at bound ⊢
  have room : 0 + columnsOf (fitGlyphs area.width 0 0 (line.glyphs {})) ≤ area.width :=
    columnsOf_fitGlyphs (Nat.zero_le _) _
  have painted : s.paintLine area row .left 0 line =
      s.putGlyphs area.x row (fitGlyphs area.width 0 0 (line.glyphs {})) := rfl
  rw [painted]
  unfold StyledLine.cells
  dsimp only
  rw [List.getElem?_append, length_cellsOf]
  split
  · rename_i shown
    refine cell?_putGlyphs (fun j inside => ?_) shown
    exact blank _ (Nat.le_add_right _ _) (Nat.add_lt_add_left (by omega) _)
  · rename_i behind
    rw [(changesOnly_putGlyphs _ area.x row _).cell? _ _ (by omega), List.getElem?_replicate,
      if_pos (by omega)]
    exact blank _ (Nat.le_add_right _ _) (Nat.add_lt_add_left bound _)

/-- A row of cells that have not changed shows what it showed. -/
theorem ShowsLine.of_changesOnly {region : Nat → Nat → Prop} {t : Screen} {line : StyledLine}
    (shows : s.ShowsLine area line) (changed : ChangesOnly region s t)
    (outside : ∀ column, ¬ region column area.y) : t.ShowsLine area line := by
  intro k bound
  rw [changed.cell? _ _ (outside _)]
  exact shows k bound

/-- Where a line is part of another one, it shows in its columns if they are all there. -/
theorem ShowsLine.part {whole line : StyledLine} {front others : List Glyph}
    (shows : s.ShowsLine area whole) (parts : whole.glyphs {} = front ++ (line.glyphs {} ++ others))
    (room : columnsOf front + columnsOf (line.glyphs {}) ≤ area.width) :
    s.ShowsLine { area with x := area.x + columnsOf front, width := columnsOf (line.glyphs {}) }
      line := by
  intro k bound
  dsimp only at bound ⊢
  have inside : columnsOf front + k < area.width := by omega
  have fit : fitGlyphs area.width 0 0 (whole.glyphs {}) = (front ++ line.glyphs {}) ++
      fitGlyphs area.width (0 + columnsOf (front ++ line.glyphs {})) 0 others := by
    rw [parts, ← List.append_assoc]
    exact fitGlyphs_append (by rwa [Nat.zero_add, columnsOf_append]) others
  have own : k < (cellsOf (line.glyphs {})).length := by rwa [length_cellsOf]
  have behind : (cellsOf front).length = columnsOf front := length_cellsOf front
  rw [Nat.add_assoc, shows _ inside, StyledLine.cells_of_exact rfl]
  unfold StyledLine.cells
  dsimp only
  rw [fit, cellsOf_append, cellsOf_append, List.append_assoc, List.append_assoc,
    List.getElem?_append_right (by omega), behind, Nat.add_sub_cancel_left,
    List.getElem?_append_left own]

/-- Lines painted one below the other each show in their row. -/
theorem showsLine_foldl {lines : List StyledLine} {first k : Nat} {line : StyledLine}
    (blank : ∀ column row, area.x ≤ column → column < area.right → area.y + first ≤ row →
      row < area.y + first + lines.length → s.cell? column row = some {})
    (there : lines[k]? = some line) :
    ((lines.zipIdx first).foldl
      (fun s (line, offset) => s.paintLine area (area.y + offset) .left 0 line) s).ShowsLine
        { area with y := area.y + (first + k), height := 1 } line := by
  induction lines generalizing s first k with
  | nil => cases there
  | cons next rest ih =>
    rw [List.zipIdx_cons, List.foldl_cons]
    rw [List.length_cons] at blank
    cases k with
    | zero =>
      obtain rfl : next = line := Option.some.inj there
      have shows : (s.paintLine area (area.y + first) .left 0 next).ShowsLine
          { area with y := area.y + first, height := 1 } next :=
        showsLine_paintLine
          (fun column left right => blank column _ left right (Nat.le_refl _) (by omega)) next
      refine shows.of_changesOnly (.foldl (fun s entry member => ?_) _ :
        ChangesOnly (fun _ row => area.y + first < row) _ _) (fun _ => Nat.lt_irrefl _)
      obtain ⟨later, offset⟩ := entry
      have behind := (List.mem_zipIdx member).1
      refine (changesOnly_paintLine s area _ .left 0 later).mono ?_
      rintro column row rfl
      omega
    | succ k =>
      rw [List.getElem?_cons_succ] at there
      rw [Nat.add_comm k 1, ← Nat.add_assoc first]
      refine ih (fun column row left right above below => ?_) there
      rw [(changesOnly_paintLine s area (area.y + first) .left 0 next).cell? column row (by
        intro same
        rw [same] at above
        omega)]
      exact blank column row left right (by omega) (by omega)

/-- A paragraph painted on blank cells shows a line in each of its rows. -/
theorem showsLine_paintParagraph (within : area.intersection s.area = area)
    (blank : ∀ column row, area.x ≤ column → column < area.right → area.y ≤ row →
      row < area.bottom → s.cell? column row = some {})
    {lines : List StyledLine} {line : StyledLine} {k : Nat} (high : k < area.height)
    (there : lines[k]? = some line) :
    (s.paintParagraph area lines).ShowsLine { area with y := area.y + k, height := 1 } line := by
  have still := changesOnly_restyle_nothing s area
  unfold paintParagraph
  dsimp only
  rw [within]
  split
  · rename_i empty
    intro column bound
    simp only [Area.isEmpty, Bool.or_eq_true, beq_iff_eq] at empty
    dsimp only at bound
    omega
  · have cleared (column row : Nat) (left : area.x ≤ column) (right : column < area.right)
        (above : area.y + 0 ≤ row) (below : row < area.y + 0 + (lines.take area.height).length) :
        (s.restyle area {}).cell? column row = some {} := by
      rw [List.length_take] at below
      rw [still.cell? _ _ not_false]
      exact blank column row left right above (show row < area.y + area.height by omega)
    have there : (lines.take area.height)[k]? = some line := by
      rw [List.getElem?_take_of_lt high, there]
    have shows := showsLine_foldl cleared there
    rwa [Nat.zero_add] at shows

end Screen

end Picklist.Terminal
