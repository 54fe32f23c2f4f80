import Picklist.Proofs.Terminal.Painting
import Picklist.Proofs.Text.ClusterWidths
import Picklist.Proofs.View.RowRun

/-!
# Where the lines of rows are painted

Rows side by side are painted as one line, glyph by glyph, while the boxes of the rows come from the
widths of whole texts. A line without line feeds and joiners is as wide as its glyphs, so where all
rows are like this each of them is painted where its box is. A line feed is measured but not
painted, and moves the rows behind it out of their boxes. Rows one below the other are always
painted in their boxes.
-/

set_option autoImplicit false

namespace Picklist.Terminal

/-! ## Lines as wide as their glyphs -/

/-- The line is as wide as its glyphs are side by side. -/
def StyledLine.Steady (line : StyledLine) : Prop := columnsOf (line.glyphs {}) = line.width

/-- Whether a line is as wide as its glyphs can be decided. -/
instance (line : StyledLine) : Decidable line.Steady :=
  inferInstanceAs (Decidable (columnsOf (line.glyphs {}) = line.width))

/-- The glyphs of two lines side by side are those of the one and then those of the other. -/
theorem StyledLine.glyphs_append (base : Style) (line line' : StyledLine) :
    StyledLine.glyphs base (line ++ line') =
      StyledLine.glyphs base line ++ StyledLine.glyphs base line' :=
  List.flatMap_append

/-- The glyphs of a line of one piece are those of the piece. -/
theorem StyledLine.glyphs_singleton (base : Style) (segment : Segment) :
    StyledLine.glyphs base [segment] = segment.glyphs base :=
  List.flatMap_singleton ..

/-- The width of two lines side by side is the sum of theirs. -/
theorem StyledLine.width_append (line line' : StyledLine) :
    StyledLine.width (line ++ line') = StyledLine.width line + StyledLine.width line' := by
  induction line with
  | nil => exact (Nat.zero_add _).symm
  | cons segment rest ih =>
    simp only [width, List.cons_append, List.map_cons, List.foldr_cons] at ih ⊢
    rw [ih, Nat.add_assoc]

/-- The width of a line of one piece is that of the piece. -/
theorem StyledLine.width_singleton (segment : Segment) :
    StyledLine.width [segment] = segment.width := rfl

/-- Two lines as wide as their glyphs are so side by side. -/
theorem StyledLine.Steady.append {line line' : StyledLine} (h : line.Steady) (h' : line'.Steady) :
    StyledLine.Steady (line ++ line') := by
  unfold Steady at h h' ⊢
  rw [glyphs_append, columnsOf_append, width_append, h, h']

/-- A text without line feeds and joiners is as wide as its glyphs. -/
theorem Segment.columnsOf_glyphs {segment : Segment} (unbroken : '\n' ∉ segment.text.toList)
    (plain : Unicode.joiner ∉ segment.text.toList) (base : Style) :
    columnsOf (segment.glyphs base) = segment.width := by
  have kept : (Unicode.graphemes segment.text.toList).filter (· != ['\n']) =
      Unicode.graphemes segment.text.toList := by
    rw [List.filter_eq_self]
    intro cluster member
    rw [bne_iff_ne]
    rintro rfl
    apply unbroken
    rw [← Unicode.flatten_graphemes segment.text.toList]
    exact List.mem_flatten_of_mem member List.mem_cons_self
  unfold Segment.glyphs columnsOf
  rw [kept, List.map_map]
  exact Unicode.foldr_textWidth_graphemes plain

/-- A piece without line breaks and joiners is as wide as its glyphs. -/
theorem Segment.steady {segment : Segment} (unbroken : '\n' ∉ segment.text.toList)
    (plain : Unicode.joiner ∉ segment.text.toList) : StyledLine.Steady [segment] := by
  unfold StyledLine.Steady
  rw [StyledLine.glyphs_singleton, columnsOf_glyphs unbroken plain, StyledLine.width_singleton]

end Picklist.Terminal

namespace Picklist.View

open Terminal

/-- The separator between rows is as wide as its glyphs. -/
theorem steady_separator (style : Style) : StyledLine.Steady [{ text := separator, style }] := by
  have unbroken : '\n' ∉ separator.toList := by decide
  have plain : Unicode.joiner ∉ separator.toList := by decide
  exact Segment.steady unbroken plain

/-- Behind the lines before it, each with its separator, comes a line, and then the rest. -/
theorem exists_intercalate_append {β : Type} (between : List β) (before : List (List β))
    (line : List β) (after : List (List β)) :
    ∃ rest, between.intercalate (before ++ line :: after) =
      before.flatMap (· ++ between) ++ (line ++ rest) := by
  induction before with
  | nil =>
    cases after with
    | nil => exact ⟨[], by simp⟩
    | cons next after => exact ⟨between ++ between.intercalate (next :: after), by simp⟩
  | cons first before ih =>
    obtain ⟨rest, split⟩ := ih
    obtain ⟨next, others, shape⟩ : ∃ next others, before ++ line :: after = next :: others :=
      List.exists_cons_of_ne_nil (by simp)
    refine ⟨rest, ?_⟩
    rw [List.cons_append, shape, List.intercalate_cons_cons, ← shape, split, List.flatMap_cons,
      List.append_assoc (first ++ between)]

/-- Steady rows take the columns that are counted for them. -/
theorem columnsOf_rows {rows : List (Nat × StyledLine)} (steady : ∀ entry ∈ rows, entry.2.Steady)
    (style : Style) :
    columnsOf (StyledLine.glyphs {} ((rows.map Prod.snd).flatMap
      (· ++ [{ text := separator, style }]))) = columnsBefore rows := by
  induction rows with
  | nil => rfl
  | cons entry rest ih =>
    obtain ⟨first, others⟩ := List.forall_mem_cons.mp steady
    have own : columnsOf (StyledLine.glyphs {} (entry.2 ++ [{ text := separator, style }])) =
        StyledLine.width entry.2 + Unicode.stringWidth separator := by
      rw [first.append (steady_separator style), StyledLine.width_append,
        StyledLine.width_singleton, Segment.width]
    rw [List.map_cons, List.flatMap_cons, StyledLine.glyphs_append, columnsOf_append, ih others,
      own, columnsBefore, columnsBefore, List.foldr_cons]

/-- A row shows in its columns if the rows up to it are steady. -/
theorem showsLine_row {s : Screen} {area : Area} {rows : List (Nat × StyledLine)} {k : Nat}
    {entry : Nat × StyledLine} {style : Style}
    (shows : s.ShowsLine area
      (List.intercalate [{ text := separator, style }] (rows.map Prod.snd)))
    (there : rows[k]? = some entry)
    (steady : ∀ j ≤ k, ∀ other, rows[j]? = some other → other.2.Steady)
    (room : columnsBefore (rows.take k) + StyledLine.width entry.2 ≤ area.width) :
    s.ShowsLine
      { area with x := area.x + columnsBefore (rows.take k), width := StyledLine.width entry.2 }
      entry.2 := by
  have before : ∀ other ∈ rows.take k, other.2.Steady := by
    intro other member
    obtain ⟨j, bound, found⟩ := List.mem_take_iff_getElem.mp member
    exact steady j (by omega) other (found ▸ List.getElem?_eq_getElem _)
  have own : columnsOf (StyledLine.glyphs {} entry.2) = StyledLine.width entry.2 :=
    steady k le_rfl entry there
  have split := congrArg (List.map Prod.snd) (eq_take_append_cons_drop there)
  rw [List.map_append, List.map_cons] at split
  obtain ⟨rest, parts⟩ := exists_intercalate_append [{ text := separator, style }]
    ((rows.take k).map Prod.snd) entry.2 ((rows.drop (k + 1)).map Prod.snd)
  rw [split] at shows
  have glyphs := congrArg (StyledLine.glyphs {}) parts
  rw [StyledLine.glyphs_append, StyledLine.glyphs_append] at glyphs
  have shown := shows.part glyphs (by rwa [columnsOf_rows before, own])
  rwa [columnsOf_rows before, own] at shown

namespace ArrangeView

variable {v : ArrangeView} {area : Area} {s : Screen}

/-- A row is painted where its box is, unless lines that are not as wide as their glyphs stand
beside it. -/
theorem showsLine_of_box (theme : Theme) {offset k : Nat} {box : RowBox} {entry : Nat × StyledLine}
    (within : area.intersection s.area = area)
    (blank : ∀ column row, area.x ≤ column → column < area.right → area.y ≤ row →
      row < area.bottom → s.cell? column row = some {})
    (there : (v.rowBoxes area offset)[k]? = some box) (shown : v.rows[offset + k]? = some entry)
    (steady : v.orientation = .vertical ∨ ∀ j ≤ k, ∀ other, v.rows[offset + j]? = some other →
      other.2.Steady) :
    (s.paintParagraph area (v.lines theme offset)).ShowsLine box.area entry.2 := by
  obtain ⟨⟨own, same, rfl⟩, inside⟩ := getElem?_rowBoxes_iff.mp there
  rw [shown] at same
  obtain rfl := Option.some.inj same
  have visible : (v.rows.drop offset)[k]? = some entry := by rw [List.getElem?_drop, shown]
  unfold rowPlace Area.Encloses Area.right Area.bottom at inside
  unfold lines rowPlace
  cases orientation : v.orientation with
  | vertical =>
    rw [orientation] at inside
    dsimp only at inside ⊢
    rw [Nat.add_sub_cancel_left] at inside ⊢
    refine Screen.showsLine_paintParagraph within blank (by omega) ?_
    rw [List.getElem?_map, visible, Option.map_some]
  | horizontal =>
    rw [orientation, shown] at inside
    rw [shown]
    dsimp only [Option.map_some, Option.getD_some] at inside ⊢
    rw [Nat.add_sub_cancel_left] at inside ⊢
    have abreast := steady.resolve_left (by rw [orientation]; exact Arrange.Orientation.noConfusion)
    -- the rows are one line, of which this row is a part
    simp only [← List.getElem?_drop] at abreast
    have tall : 0 < area.height := by omega
    exact showsLine_row (Screen.showsLine_paintParagraph within blank tall rfl) visible abreast
      (show _ ≤ area.width by omega)

end ArrangeView

end Picklist.View
