import Picklist.Proofs.Session.Typing

/-!
# Inputs with one line

A query input shows the first line of its field. It starts with a single line, and no key brings
another but one that types a bare line break: pasting, undoing and doing again put back only what
came out of a single line. Such a key does split the line. What stood behind the cursor is then no
longer a part of the text, while it can still be edited.
-/

set_option autoImplicit false

namespace Picklist.Input

/-! ## Blocks and edits within the first line -/

namespace Block

/-- The block breaks no line. -/
def Flat (block : Block) : Prop := ∃ piece, block = [piece] ∧ '\n' ∉ piece

variable {lines block : Block} {start stop : Place}

/-- A block of one line ends in the row in which it starts. -/
theorem Flat.stop_row (flat : block.Flat) (start : Place) : (block.stop start).row = start.row := by
  obtain ⟨piece, rfl, -⟩ := flat
  rfl

/-- A line put into a single line gives a single line. -/
theorem Flat.insertBlock (h : Flat lines) (first : start.row = 0) (flat : block.Flat) :
    Flat (insertBlock lines start block) := by
  obtain ⟨line, rfl, single⟩ := h
  obtain ⟨piece, rfl, plain⟩ := flat
  refine ⟨line.take start.column ++ piece ++ line.drop start.column,
    by simp [Input.insertBlock, first], ?_⟩
  simp only [List.mem_append]
  rintro ((before | inside) | behind)
  · exact single (List.mem_of_mem_take before)
  · exact plain inside
  · exact single (List.mem_of_mem_drop behind)

/-- A single line stays one when a part of it is deleted. -/
theorem Flat.deleteBetween (h : Flat lines) (first : start.row = 0) (last : stop.row = 0) :
    Flat (deleteBetween lines start stop) := by
  obtain ⟨line, rfl, single⟩ := h
  refine ⟨line.take start.column ++ line.drop stop.column,
    by simp [Input.deleteBetween, first, last], ?_⟩
  simp only [List.mem_append]
  rintro (before | behind)
  · exact single (List.mem_of_mem_take before)
  · exact single (List.mem_of_mem_drop behind)

/-- A part of a single line is a single line. -/
theorem Flat.blockBetween (h : Flat lines) (first : start.row = 0) (last : stop.row = 0) :
    Flat (blockBetween lines start stop) := by
  obtain ⟨line, rfl, single⟩ := h
  refine ⟨(line.take stop.column).drop start.column, by simp [Input.blockBetween, first, last], ?_⟩
  exact fun inside => single (List.mem_of_mem_take (List.mem_of_mem_drop inside))

end Block

/-- The edit stays within the first line. -/
structure Edit.InLine (e : Edit) : Prop where
  flat : e.block.Flat
  start : e.start.row = 0
  stop : e.stop.row = 0

namespace Edit.InLine

variable {e : Edit} {lines : List (List Char)}

/-- Taking back an edit of a line is an edit of a line. -/
theorem inverse (h : e.InLine) : e.inverse.InLine := { h with }

/-- An edit of a line leaves a single line, and the cursor in it. -/
theorem perform (h : e.InLine) (flat : Block.Flat lines) :
    Block.Flat (e.perform lines).1 ∧ (e.perform lines).2.row = 0 := by
  unfold Edit.perform
  split
  · exact ⟨flat.insertBlock h.start h.flat, h.stop⟩
  · exact ⟨flat.deleteBetween h.start h.stop, h.start⟩

end Edit.InLine

/-- All edits that can be taken back or made again stay within the first line. -/
def History.InLine (h : History) : Prop := ∀ e ∈ h.done ++ h.undone, e.InLine

namespace History.InLine

variable {h rest : History} {e : Edit}

/-- A history of edits of a line goes on with another one. -/
theorem push (inLine : h.InLine) (new : e.InLine) : (h.push e).InLine := by
  intro other among
  simp only [History.push, List.append_nil, List.mem_cons] at among
  rcases among with rfl | old
  · exact new
  · have kept : other ∈ h.done := by
      split at old
      · exact List.dropLast_subset _ old
      · exact old
    exact inLine other (List.mem_append_left _ kept)

/-- What can be undone is an edit of a line, and so is what is left. -/
theorem undo (inLine : h.InLine) (undone : h.undo? = some (e, rest)) : e.InLine ∧ rest.InLine := by
  unfold History.undo? at undone
  split at undone
  · rename_i last others done
    cases undone
    refine ⟨inLine _ (by simp [done]), fun other among => inLine other ?_⟩
    rw [done]
    grind
  · cases undone

/-- What can be redone is an edit of a line, and so is what is left. -/
theorem redo (inLine : h.InLine) (redone : h.redo? = some (e, rest)) : e.InLine ∧ rest.InLine := by
  unfold History.redo? at redone
  split at redone
  · rename_i next others undone
    cases redone
    refine ⟨inLine _ (by simp [undone]), fun other among => inLine other ?_⟩
    rw [undone]
    grind
  · cases redone

end History.InLine

/-- The action types no line break. -/
def Action.Whole : Action → Prop
  | .splitLine => False
  | .type c => c ≠ '\n' ∧ c ≠ '\r'
  | _ => True

/-! ## Fields with one line -/

namespace TextField

/-- The field has one line, and nothing that it remembers reaches beyond one line. -/
structure OneLine (f : TextField) : Prop where
  lines : Block.Flat f.lines
  cursor : f.cursor.row = 0
  anchor : ∀ place ∈ f.anchor, place.row = 0
  yank : f.yank.Flat
  history : f.history.InLine

variable {f : TextField}

/-- A field that is made of a single line has a single line. -/
theorem oneLine_ofLine {line : List Char} (single : '\n' ∉ line) : (ofLine line).OneLine where
  lines := ⟨line, rfl, single⟩
  cursor := rfl
  anchor := nofun
  yank := ⟨[], rfl, List.not_mem_nil⟩
  history := nofun

namespace OneLine

/-- A field with one line has one line. -/
theorem length_eq (h : f.OneLine) : f.lines.length = 1 := by
  obtain ⟨line, lines, -⟩ := h.lines
  rw [lines]
  rfl

/-- Dropping the selection leaves a single line. -/
theorem deselect (h : f.OneLine) : { f with anchor := none }.OneLine :=
  { h with anchor := nofun }

/-- An edit of the line leaves a single line. -/
theorem perform (h : f.OneLine) {e : Edit} (inLine : e.InLine) : (f.perform e).OneLine where
  lines := (inLine.perform h.lines).1
  cursor := (inLine.perform h.lines).2
  anchor := h.anchor
  yank := h.yank
  history := h.history.push inLine

/-! ### Deleting -/

/-- Deleting a stretch of the line leaves a single line. -/
theorem deleteRange (h : f.OneLine) (start stop : Place) (first : start.row = 0)
    (last : stop.row = 0) (store : Bool) : (f.deleteRange start stop store).OneLine := by
  have block : Block.Flat (blockBetween f.lines start stop) := h.lines.blockBetween first last
  have yank : Block.Flat (if store then blockBetween f.lines start stop else f.yank) := by
    split
    · exact block
    · exact h.yank
  have inLine : Edit.InLine ⟨false, blockBetween f.lines start stop, start, stop⟩ :=
    ⟨block, first, last⟩
  have stored : OneLine { f with
      yank := if store then blockBetween f.lines start stop else f.yank } := { h with yank }
  exact stored.perform inLine

/-- What is selected lies in the first row. -/
theorem selection_rows (h : f.OneLine) {start stop : Place}
    (selected : f.selection? = some (start, stop)) : start.row = 0 ∧ stop.row = 0 := by
  unfold selection? at selected
  split at selected
  · rename_i anchor anchored
    have row : anchor.row = 0 := h.anchor anchor anchored
    have cursor := h.cursor
    grind
  · cases selected

/-- Deleting the selection leaves a single line, whether or not there is one. -/
theorem deleteSelection (h : f.OneLine) (store : Bool) :
    (f.deleteSelection store).2.OneLine ∧ ∀ g ∈ (f.deleteSelection store).1, g.OneLine := by
  unfold TextField.deleteSelection
  split
  · rename_i start stop selected
    obtain ⟨first, last⟩ := h.selection_rows selected
    have deleted := h.deselect.deleteRange start stop first last store
    exact ⟨deleted, fun g is => Option.mem_some.mp is ▸ deleted⟩
  · exact ⟨h.deselect, nofun⟩

/-- Deleting the selection, or else doing what keeps a single line, leaves a single line. -/
theorem deleteSelectionOr (h : f.OneLine) {otherwise : TextField → TextField}
    (keeps : ∀ g : TextField, g.OneLine → (otherwise g).OneLine) :
    (f.deleteSelectionOr otherwise).OneLine := by
  obtain ⟨dropped, deleted⟩ := h.deleteSelection false
  unfold TextField.deleteSelectionOr
  split
  · rename_i g _ found
    exact deleted g (by rw [found]; rfl)
  · rename_i g found
    rw [found] at dropped
    exact keeps g dropped

/-- In a single line there is no line to be joined to the one before. -/
theorem joinLines (h : f.OneLine) : f.joinLines.OneLine := by
  rw [TextField.joinLines, if_pos h.cursor]
  exact h

/-- Deleting a piece of the line leaves a single line. -/
theorem deletePiece (h : f.OneLine) (start stop : Nat) : (f.deletePiece start stop).OneLine :=
  h.deleteRange { f.cursor with column := start } { f.cursor with column := stop } h.cursor h.cursor
    true

/-- Deleting the character before the cursor leaves a single line. -/
theorem deleteBefore (h : f.OneLine) : f.deleteBefore.OneLine := by
  refine h.deleteSelectionOr fun g h => ?_
  split
  · exact h.joinLines
  · exact h.deleteRange { g.cursor with column := g.cursor.column - 1 } g.cursor h.cursor h.cursor
      false

/-! ### Moving -/

/-- The cursor's line is the first and the last one, so no move leaves it. -/
theorem target_row (h : f.OneLine) {m : CursorMove} {place : Place}
    (goes : f.target? m = some place) : place.row = 0 := by
  have cursor := h.cursor
  have length := h.length_eq
  cases m with
  | paragraphForward =>
    -- no line behind this one could start a paragraph
    have behind : f.lines.drop (0 + 1) = [] := List.drop_eq_nil_of_le (Nat.le_of_eq length)
    simp only [target?, cursor, length, behind, paragraphAfter?, Option.getD_none] at goes
    rw [← Option.some.inj goes]
    rfl
  | _ =>
    simp only [target?, cursor, length] at goes
    grind [fit]

/-- A selection that goes along starts at its old end or, where nothing was selected, at the
cursor. -/
theorem extended_row (h : f.OneLine) : (f.anchor.getD f.cursor).row = 0 := by
  cases anchored : f.anchor with
  | some place => exact h.anchor place anchored
  | none => exact h.cursor

/-- Moving the cursor leaves a single line. -/
theorem move (h : f.OneLine) (m : CursorMove) (extend : Bool) : (f.move m extend).OneLine := by
  unfold TextField.move
  split
  · rename_i place goes
    refine { h with cursor := h.target_row goes, anchor := ?_ }
    split
    · simpa using h.extended_row
    · exact nofun
  · exact h

/-- Turning pages leaves a single line. -/
theorem page (h : f.OneLine) (down extend : Bool) : (f.page down extend).OneLine := by
  have anchor : ∀ place ∈ if extend then some (f.anchor.getD f.cursor) else f.anchor,
      place.row = 0 := by
    split
    · simpa using h.extended_row
    · exact h.anchor
  have turned (viewport : Viewport) : OneLine { f with
      viewport, anchor := if extend then some (f.anchor.getD f.cursor) else f.anchor } :=
    { h with anchor }
  exact (turned _).move .intoView extend

/-- Deleting the character behind the cursor leaves a single line. -/
theorem deleteAfter (h : f.OneLine) : f.deleteAfter.OneLine := by
  refine h.deleteSelectionOr fun g h => ?_
  have moved := h.move .forward false
  dsimp only
  split
  · exact moved
  · exact moved.deleteBefore

/-- Deleting up to the end of the line leaves a single line. -/
theorem deleteToLineEnd (h : f.OneLine) : f.deleteToLineEnd.OneLine := by
  refine h.deleteSelectionOr fun g h => ?_
  dsimp only
  split
  · exact h.deletePiece _ _
  · exact h.deleteAfter

/-- Deleting up to the start of the line leaves a single line. -/
theorem deleteToLineStart (h : f.OneLine) : f.deleteToLineStart.OneLine := by
  refine h.deleteSelectionOr fun g h => ?_
  split
  · exact h.deletePiece _ _
  · exact h.joinLines

/-- Deleting the word before the cursor leaves a single line. -/
theorem deleteWordBefore (h : f.OneLine) : f.deleteWordBefore.OneLine := by
  refine h.deleteSelectionOr fun g h => ?_
  dsimp only
  split
  · exact h.deletePiece _ _
  · split
    · exact h.deletePiece _ _
    · exact h.joinLines

/-- Deleting the word behind the cursor leaves a single line. -/
theorem deleteWordAfter (h : f.OneLine) : f.deleteWordAfter.OneLine := by
  refine h.deleteSelectionOr fun g h => ?_
  dsimp only
  split
  · exact h.deletePiece _ _
  · split
    · exact h.deletePiece _ _
    · rw [if_neg (by rw [h.cursor, h.length_eq]; decide)]
      exact h

/-! ### Putting in -/

/-- Inserting a text without line breaks leaves a single line. -/
theorem insert (h : f.OneLine) {block : Block} (flat : block.Flat) : (f.insert block).OneLine := by
  have dropped := (h.deleteSelection false).1
  unfold TextField.insert
  split
  · exact dropped
  · exact dropped.perform ⟨flat, dropped.cursor, (flat.stop_row _).trans dropped.cursor⟩

/-- Inserting a tabulator leaves a single line. -/
theorem insertTab (h : f.OneLine) : f.insertTab.OneLine := by
  refine (h.deleteSelection false).1.insert ⟨_, rfl, ?_⟩
  intro among
  exact absurd (List.eq_of_mem_replicate among) (by decide)

/-! ### Copying, and going back and forth -/

/-- Copying leaves a single line. -/
theorem copy (h : f.OneLine) : f.copy.OneLine := by
  unfold TextField.copy
  split
  · rename_i selected
    obtain ⟨first, last⟩ := h.selection_rows selected
    exact { h.deselect with yank := h.lines.blockBetween first last }
  · exact h.deselect

/-- Undoing leaves a single line. -/
theorem undo (h : f.OneLine) : f.undo.OneLine := by
  unfold TextField.undo
  split
  · rename_i undone
    obtain ⟨inLine, history⟩ := h.history.undo undone
    obtain ⟨lines, cursor⟩ := inLine.inverse.perform h.lines
    exact { h.deselect with lines, cursor, history }
  · exact h

/-- Redoing leaves a single line. -/
theorem redo (h : f.OneLine) : f.redo.OneLine := by
  unfold TextField.redo
  split
  · rename_i redone
    obtain ⟨inLine, history⟩ := h.history.redo redone
    obtain ⟨lines, cursor⟩ := inLine.perform h.lines
    exact { h.deselect with lines, cursor, history }
  · exact h

/-- No action but one that types a line break brings a second line. -/
theorem act (h : f.OneLine) (shift : Bool) {action : Action} (whole : action.Whole) :
    (f.act shift action).OneLine := by
  cases action with
  | type c =>
    obtain ⟨noFeed, noReturn⟩ := whole
    show (f.insertChar c).OneLine
    rw [insertChar, if_neg (by simp [noFeed, noReturn])]
    exact h.insert ⟨[c], rfl, by simpa using noFeed.symm⟩
  | splitLine => exact whole.elim
  | tab => exact h.insertTab
  | deleteBefore => exact h.deleteBefore
  | deleteAfter => exact h.deleteAfter
  | deleteToLineEnd => exact h.deleteToLineEnd
  | deleteToLineStart => exact h.deleteToLineStart
  | deleteWordBefore => exact h.deleteWordBefore
  | deleteWordAfter => exact h.deleteWordAfter
  | move m => exact h.move m shift
  | page down => exact h.page down shift
  | undo => exact h.undo
  | redo => exact h.redo
  | paste => exact h.insert h.yank
  | cut => exact (h.deleteSelection true).1
  | copy => exact h.copy

/-- Splitting the line leaves what stands before the cursor and what stands behind it. -/
theorem insert_break (h : f.OneLine) :
    ∃ before behind, (f.insert [[], []]).lines = [before, behind] ∧
      (f.deleteSelection false).2.lines = [before ++ behind] := by
  have dropped := (h.deleteSelection false).1
  obtain ⟨line, lines, -⟩ := dropped.lines
  refine ⟨line.take (f.deleteSelection false).2.cursor.column,
    line.drop (f.deleteSelection false).2.cursor.column, ?_, by simpa using lines⟩
  simp [TextField.insert, TextField.perform, Edit.perform, insertBlock, lines, dropped.cursor]

end OneLine

end TextField

/-! ## Keys that ask for a line break -/

namespace Key

/-- The key stands for a line break, with whatever other keys held. -/
def CarriesBreak (k : Key) : Prop :=
  QueryInput.ignores k = true ∨ k.code = .char '\n' ∨ k.code = .char '\r'

/-- The key types a line break as a plain character: neither control nor alt gives it another
meaning. -/
def BreaksLine (k : Key) : Prop :=
  (k.code = .char '\n' ∨ k.code = .char '\r') ∧ k.control = false ∧ k.alt = false

/-- Whether a key carries a line break can be decided. -/
instance (k : Key) : Decidable k.CarriesBreak := inferInstanceAs (Decidable (_ ∨ _ ∨ _))

/-- Whether a key breaks the line can be decided. -/
instance (k : Key) : Decidable k.BreaksLine := inferInstanceAs (Decidable ((_ ∨ _) ∧ _ ∧ _))

variable {k : Key}

/-- A key that breaks the line is let through and splits it. -/
theorem action_of_breaksLine (breaks : k.BreaksLine) :
    k.action? = some .splitLine ∧ QueryInput.ignores k = false := by
  obtain ⟨code | code, control, alt⟩ := breaks <;>
    simp [action?, QueryInput.ignores, isControl, code, control, alt]

/-- With control or alt held a line break means nothing. -/
theorem action_of_carriesBreak (carries : k.CarriesBreak) (passed : QueryInput.ignores k = false)
    (unbroken : ¬ k.BreaksLine) : k.action? = none := by
  have code : k.code = .char '\n' ∨ k.code = .char '\r' :=
    carries.resolve_left (by simp [passed])
  have held : ¬ (k.control = false ∧ k.alt = false) := fun bare => unbroken ⟨code, bare⟩
  rcases code with code | code <;> cases control : k.control <;> cases alt : k.alt <;>
    simp_all [action?, controlAction?, altAction?, controlAltAction?]

/-- The keys with control do nothing that breaks a line, but for one that is ignored. -/
theorem whole_of_controlAction {c : Char} (other : c ≠ 'm') :
    ∀ action ∈ controlAction? c, action.Whole := by
  unfold controlAction?
  split <;> simp_all [Action.Whole]

/-- The keys with alt do nothing that breaks a line. -/
theorem whole_of_altAction (c : Char) : ∀ action ∈ altAction? c, action.Whole := by
  unfold altAction?
  split <;> simp [Action.Whole]

/-- The keys with control and alt do nothing that breaks a line. -/
theorem whole_of_controlAltAction (c : Char) : ∀ action ∈ controlAltAction? c, action.Whole := by
  unfold controlAltAction?
  split <;> simp [Action.Whole]

/-- Arrows do nothing that breaks a line. -/
theorem whole_of_arrowAction (k : Key) (alone withControl withBoth : CursorMove) :
    ∀ action ∈ arrowAction? k alone withControl withBoth, action.Whole := by
  unfold arrowAction?
  split <;> simp [Action.Whole]

/-- A key that is passed on splits the line only if it types a line break. -/
theorem whole_of_action (passed : QueryInput.ignores k = false) (unbroken : ¬ k.BreaksLine) :
    ∀ action ∈ k.action?, action.Whole := by
  unfold QueryInput.ignores isControl at passed
  unfold action?
  cases code : k.code with
  | char c =>
    cases control : k.control <;> cases alt : k.alt <;> dsimp only
    · have bare : ¬ (c = '\n' ∨ c = '\r') := by
        simpa [BreaksLine, code, control, alt] using unbroken
      rw [if_neg bare]
      simpa [Action.Whole] using bare
    · exact whole_of_altAction c
    · exact whole_of_controlAction (by simpa [code, control] using passed)
    · exact whole_of_controlAltAction c
  | enter => simp [code] at passed
  | up => exact whole_of_arrowAction k _ _ _
  | down => exact whole_of_arrowAction k _ _ _
  | left => exact whole_of_arrowAction k _ _ _
  | right => exact whole_of_arrowAction k _ _ _
  | tab | backspace | delete =>
    cases k.control <;> cases k.alt <;> simp [Action.Whole]
  | home | endKey | pageUp | pageDown | escape | other => simp [Action.Whole]

end Key

/-! ## What a key press leaves -/

namespace QueryInput

variable {q : QueryInput} {k : Key}

/-- The input after a number of key presses. -/
def typed (q : QueryInput) (keys : List Key) : QueryInput :=
  keys.foldl (fun q k => (q.press k).2) q

/-- An input has a single line from the start. -/
theorem oneLine_ofText (text : String) : (ofText text).field.OneLine :=
  TextField.oneLine_ofLine (Text.not_mem_headD_linesFrom List.not_mem_nil text.toList)

/-- The text of an input with a single line is that line. -/
theorem lines_eq (h : q.field.OneLine) :
    q.field.lines = [q.text.toList] ∧ '\n' ∉ q.text.toList := by
  obtain ⟨line, lines, single⟩ := h.lines
  simpa [text, lines] using single

/-- A key that does not break the line leaves a single line. -/
theorem oneLine_press (h : q.field.OneLine) (unbroken : ¬ k.BreaksLine) :
    (q.press k).2.field.OneLine := by
  unfold press
  split
  · exact h
  · rename_i passed
    show (q.field.press k).OneLine
    unfold TextField.press
    split
    · rename_i action does
      exact h.act k.shift
        (Key.whole_of_action (Bool.eq_false_iff.mpr passed) unbroken action does)
    · exact h

/-- A key that stands for a line break, but is not a bare one, does nothing. -/
theorem press_of_carriesBreak (carries : k.CarriesBreak) (unbroken : ¬ k.BreaksLine) :
    q.press k = (false, q) := by
  unfold press
  split
  · rfl
  · rename_i passed
    have nothing := Key.action_of_carriesBreak carries (Bool.eq_false_iff.mpr passed) unbroken
    simp [TextField.press, nothing]

/-- As long as there is one line, a key press tells whether the content changed. -/
theorem press_reports_iff (h : q.field.OneLine) (unbroken : ¬ k.BreaksLine) :
    (q.press k).1 = true ↔ (q.press k).2.field.lines ≠ q.field.lines := by
  rw [press_tells, (lines_eq h).1, (lines_eq (oneLine_press h unbroken)).1]
  simp [String.toList_inj]

/-- A bare line break cuts off from the text what stands behind the cursor. -/
theorem press_of_breaksLine (h : q.field.OneLine) (breaks : k.BreaksLine) :
    ∃ before behind, (q.press k).2.field.lines = [before, behind] ∧
      (q.press k).2.text = String.ofList before ∧
      (q.field.deleteSelection false).2.lines = [before ++ behind] := by
  obtain ⟨before, behind, cut, whole⟩ := h.insert_break
  obtain ⟨splits, passed⟩ := Key.action_of_breaksLine breaks
  have lines : (q.press k).2.field.lines = [before, behind] := by
    simpa [press, passed, TextField.press, splits, TextField.act] using cut
  exact ⟨before, behind, lines, by rw [text, lines]; rfl, whole⟩

/-! ## What a run of key presses leaves -/

/-- Keys none of which breaks the line leave a single line. -/
theorem oneLine_typed {keys : List Key} (h : q.field.OneLine)
    (unbroken : ∀ k ∈ keys, ¬ k.BreaksLine) : (q.typed keys).field.OneLine := by
  induction keys generalizing q with
  | nil => exact h
  | cons k keys ih =>
    obtain ⟨first, others⟩ := List.forall_mem_cons.mp unbroken
    exact ih (oneLine_press h first) others

/-- There is one line all along if and only if no key is a bare line break. -/
theorem length_lines_typed_iff (h : q.field.OneLine) (keys : List Key) :
    (∀ n, (q.typed (keys.take n)).field.lines.length = 1) ↔ ∀ k ∈ keys, ¬ k.BreaksLine := by
  constructor
  · intro single
    induction keys generalizing q with
    | nil => exact nofun
    | cons k keys ih =>
      -- the first bare line break would meet a single line, and two lines would be left
      have first : ¬ k.BreaksLine := by
        intro breaks
        obtain ⟨before, behind, lines, -⟩ := press_of_breaksLine h breaks
        have length : (q.press k).2.field.lines.length = 1 := single 1
        rw [lines] at length
        cases length
      exact List.forall_mem_cons.mpr
        ⟨first, ih (oneLine_press h first) fun n => single (n + 1)⟩
  · intro unbroken n
    exact (oneLine_typed h fun k among => unbroken k (List.mem_of_mem_take among)).length_eq

/-- **An input has one line until a bare line break is typed.** Whatever text an input starts with
and whatever keys are pressed: the field has a single line all along if and only if none of the keys
is a line feed or a carriage return without control and alt. Then the text is all there is in the
field and has no line feed in it. Any other key that stands for a line break, such as the enter key
and its control character, reports nothing and does nothing, and a key that is no bare line break
tells whether the content has changed. A bare line break leaves two lines: the text ends at the
cursor, and what stood behind it remains in the field alone. -/
theorem one_line_until_a_bare_break (initial : String) (keys : List Key) :
    let q := (ofText initial).typed keys
    ((∀ n, ((ofText initial).typed (keys.take n)).field.lines.length = 1) ↔
      ∀ k ∈ keys, ¬ k.BreaksLine) ∧
    ((∀ k ∈ keys, ¬ k.BreaksLine) →
      (q.field.lines = [q.text.toList] ∧ '\n' ∉ q.text.toList) ∧
      ∀ k : Key,
        (k.CarriesBreak → ¬ k.BreaksLine → q.press k = (false, q)) ∧
        (¬ k.BreaksLine → ((q.press k).1 = true ↔ (q.press k).2.field.lines ≠ q.field.lines)) ∧
        (k.BreaksLine → ∃ before behind, (q.press k).2.field.lines = [before, behind] ∧
          (q.press k).2.text = String.ofList before ∧
          (q.field.deleteSelection false).2.lines = [before ++ behind])) := by
  intro q
  refine ⟨length_lines_typed_iff (oneLine_ofText initial) keys, fun unbroken => ?_⟩
  have h : q.field.OneLine := oneLine_typed (oneLine_ofText initial) unbroken
  refine ⟨lines_eq h, fun k => ⟨?_, ?_, ?_⟩⟩
  · exact fun carries unbroken => press_of_carriesBreak carries unbroken
  · exact fun unbroken => press_reports_iff h unbroken
  · exact fun breaks => press_of_breaksLine h breaks

/-- Cutting a word, pasting it twice and taking that back all stay within the line, and control and
`m` are ignored. -/
theorem one_line_until_a_bare_break_pasting :
    let control (c : Char) : Key := { code := .char c, control := true }
    let keys : List Key :=
      [control 'w', control 'y', control 'y', control 'u', { code := .char 'c' }, control 'm']
    let q := (ofText "two words\nand a line").typed keys
    (∀ k ∈ keys, ¬ k.BreaksLine) ∧ q.field.lines = ["two wordsc".toList] ∧
      q.press (control '\n') = (false, q) ∧
      (q.press { code := .left, shift := true }).1 = false := by
  intro control keys q
  have unbroken : ∀ k ∈ keys, ¬ k.BreaksLine := by decide
  have text : q.text = "two wordsc" := by decide +kernel
  obtain ⟨-, holds⟩ := one_line_until_a_bare_break "two words\nand a line" keys
  obtain ⟨⟨lines, -⟩, pressed⟩ := holds unbroken
  obtain ⟨ignored, -⟩ := pressed (control '\n')
  obtain ⟨-, tells, -⟩ := pressed { code := .left, shift := true }
  refine ⟨unbroken, ?_, ignored (by decide) (by decide), ?_⟩
  · rw [← text]
    exact lines
  · rw [← Bool.not_eq_true, tells (by decide)]
    decide +kernel

/-- A line feed that is typed takes what stands behind the cursor from the text, and reports it. -/
theorem bare_line_feed_splits_the_line :
    let q := (ofText "ab").typed [{ code := .left }]
    let split := q.press { code := .char '\n' }
    q.field.lines = ["ab".toList] ∧ split.1 = true ∧
      split.2.field.lines = ["a".toList, "b".toList] ∧ split.2.text = "a" := by
  decide +kernel

end QueryInput

end Picklist.Input
