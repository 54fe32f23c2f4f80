import Picklist.Proofs.Arrange.InHand
import Picklist.Proofs.Session.RowsOnScreen

/-!
# What a press takes in hand

A press in a cell drags the item whose list index the last painting left there. The rows are not
painted anew when a move lands, so the item of that index can be another one by then. Following the
moves that have landed since the painting tells which row the pressed item had been painted in: the
one that was pressed as long as all moves ended where they began.
-/

set_option autoImplicit false

namespace Picklist

/-! ## A row of moves -/

namespace Arrange

variable {β γ : Type}

/-- The entries after a row of moves inside the same slots. -/
def rearranged (slots : List Nat) (moves : List (Nat × Nat)) (entries : List β) : List β :=
  moves.foldl (fun entries move => moveWithinSlots slots move.1 move.2 entries) entries

/-- Rearranging does not look at the entries. -/
theorem rearranged_map (f : β → γ) (slots : List Nat) (moves : List (Nat × Nat))
    (entries : List β) :
    rearranged slots moves (entries.map f) = (rearranged slots moves entries).map f := by
  induction moves generalizing entries with
  | nil => rfl
  | cons move moves ih =>
    unfold rearranged at ih ⊢
    rw [List.foldl_cons, List.foldl_cons, moveWithinSlots_map, ih]

/-- Moves that end where they begin rearrange nothing. -/
theorem rearranged_of_returned {moves : List (Nat × Nat)}
    (returned : ∀ move ∈ moves, move.1 = move.2) (slots : List Nat)
    (entries : List β) : rearranged slots moves entries = entries := by
  induction moves with
  | nil => rfl
  | cons move moves ih =>
    obtain ⟨back, others⟩ := List.forall_mem_cons.mp returned
    unfold rearranged at ih ⊢
    rw [List.foldl_cons, back, moveWithinSlots_self, ih others]

/-- Where the entry at a place comes from is told by moving the places themselves. -/
theorem getElem?_rearranged_iff {slots : List Nat} {moves : List (Nat × Nat)} {entries : List β}
    {place : Nat} {entry : β} : (rearranged slots moves entries)[place]? = some entry ↔
      ∃ origin, (rearranged slots moves (List.range entries.length))[place]? = some origin ∧
        entries[origin]? = some entry := by
  -- places and entries are swapped alike
  have read : (rearranged slots moves entries).map some =
      (rearranged slots moves (List.range entries.length)).map (entries[·]?) := by
    rw [← rearranged_map, ← map_getElem?_range, rearranged_map]
  have here : (rearranged slots moves entries)[place]?.map some =
      (rearranged slots moves (List.range entries.length))[place]?.map (entries[·]?) := by
    rw [← List.getElem?_map, read, List.getElem?_map]
  rw [← Option.map_eq_some_iff, ← here]
  simp

/-- Rearranging leaves the slots where they are. -/
theorem slots_rearranged {α : Type} (items : List (Item α)) (moves : List (Nat × Nat)) :
    slots (rearranged (slots items) moves items) = slots items := by
  induction moves generalizing items with
  | nil => rfl
  | cons move moves ih =>
    have same := slots_moveWithinSlots items move.1 move.2
    have later := ih (moveWithinSlots (slots items) move.1 move.2 items)
    rw [same] at later
    exact later

/-- The move of an item that was grabbed by key. -/
def Gesture.grab? : Gesture → Option (Nat × Nat)
  | .grabbed source drop => some (source, drop)
  | _ => none

namespace Arranger

variable {α : Type}

/-- A commit lands the move that the held sample leaves. -/
theorem commit_rearranges (a : Arranger α) (now : Nat) : (a.commit now).2.items =
    rearranged (slots a.items) a.flushSample.gesture.move?.toList a.items := by
  cases moving : a.flushSample.gesture.move? with
  | none =>
    obtain kept | ⟨source, drop, moves, -⟩ := a.commit_items now
    · exact kept
    · rw [moving] at moves
      cases moves
  | some move => exact commit_items_of_moving moving now

/-- The space key lands the item that was grabbed. -/
theorem handleKey_space_rearranges (a : Arranger α) (now : Nat) :
    (a.handleKey .space now).2.items =
      rearranged (slots a.items) a.gesture.grab?.toList a.items := by
  by_cases none_sortable : a.total = 0
  · have empty : slots a.items = [] := by
      rw [← List.length_eq_zero_iff, length_slots]
      exact none_sortable
    rw [handleKey_of_unsortable none_sortable, empty]
    cases a.gesture.grab? with
    | none => rfl
    | some move => simp [rearranged, moveWithinSlots]
  · rw [handleKey_space none_sortable]
    cases gesture : a.gesture with
    | grabbed source drop =>
      -- only a drag takes a held sample into account
      have kept : a.flushSample.gesture = a.gesture :=
        flushSample_gesture (by simp [gesture])
      have landed := a.commit_rearranges now
      rw [kept, gesture] at landed
      rw [space, gesture]
      exact landed
    | _ => rw [space, gesture]; rfl

/-- The items that can be dragged are those in slots. -/
theorem beginDrag_begins_iff {a : Arranger α} {index : Nat} :
    (a.beginDrag index).1 = true ↔ index ∈ slots a.items := by
  rw [List.mem_iff_getElem?]
  simp only [← positionOf_eq_some_iff]
  cases found : positionOf a.items index with
  | none => simp [beginDrag_of_pinned found]
  | some position => simp [beginDrag_of_sortable found]

end Arranger

end Arrange

namespace Session

open Terminal View
open Arrange (Arranger Item rearranged slots)

variable {α : Type}

namespace Sorting

variable {s : Sorting α}

/-! ## The moves that land -/

/-- The move that a key ends, by the positions of the item before and after it. -/
def landingByKey? (s : Sorting α) : Input.KeyCode → Option (Nat × Nat)
  | .enter => s.arranger.flushSample.gesture.move?
  | .char ' ' => s.arranger.gesture.grab?
  | _ => none

/-- The move that an event ends. -/
def landing? (s : Sorting α) : Event → Option (Nat × Nat)
  | .key key _ => s.landingByKey? key.code
  | .mouse .release _ _ _ => s.arranger.flushSample.gesture.move?
  | _ => none

/-- The moves that a run ends, in order. -/
def landings (s : Sorting α) : List Event → List (Nat × Nat)
  | [] => []
  | event :: rest => (s.landing? event).toList ++ (s.perform event).landings rest

/-- Other keys than enter and the space bar land nothing. -/
theorem landingByKey?_of_other {code : Input.KeyCode} (noEnter : code ≠ .enter)
    (noSpace : code ≠ .char ' ') : s.landingByKey? code = none := by
  unfold landingByKey?
  split <;> simp_all

/-- Only the space bar is passed on to the list as such. -/
theorem listKey?_eq_space_iff {code : Input.KeyCode} :
    listKey? code = some .space ↔ code = .char ' ' := by
  unfold listKey?
  split <;> simp_all

/-- A key rearranges the items by the move that it lands, if it lands one. -/
theorem handleKey_rearranges (s : Sorting α) (key : Input.Key) (now : Nat) :
    (s.handleKey key now).2.arranger.items =
      rearranged (slots s.arranger.items) (s.landingByKey? key.code).toList s.arranger.items := by
  unfold handleKey
  by_cases quits : key.isControl 'c' = true
  · have code : key.code = .char 'c' := by
      unfold Input.Key.isControl at quits
      simp_all
    rw [if_pos quits, code]
    rfl
  rw [if_neg quits]
  split
  · rename_i code
    rw [code]
    exact s.arranger.commit_rearranges now
  · rename_i code
    rw [code]
    split
    · rfl
    · exact Arranger.handleKey_items Arrange.Key.noConfusion
  · rename_i noEnter _
    by_cases space : key.code = .char ' '
    · rw [listKey?_eq_space_iff.mpr space, space]
      exact s.arranger.handleKey_space_rearranges now
    · rw [landingByKey?_of_other noEnter space]
      split
      · rename_i other listed
        refine Arranger.handleKey_items ?_
        rintro rfl
        exact space (listKey?_eq_space_iff.mp listed)
      · rfl

/-- An event changes the order of the items just by the move that it ends. -/
theorem perform_rearranges (s : Sorting α) (event : Event) :
    (s.perform event).arranger.items =
      rearranged (slots s.arranger.items) (s.landing? event).toList s.arranger.items := by
  cases event with
  | key key now => exact s.handleKey_rearranges key now
  | mouse action column row now =>
    cases action with
    | press =>
      show (s.handleMouse .press column row now).arranger.items = s.arranger.items
      unfold handleMouse
      dsimp only
      split
      · exact (Arranger.sameList_beginDrag s.arranger _).items
      · rfl
    | drag =>
      show (s.handleMouse .drag column row now).arranger.items = s.arranger.items
      unfold handleMouse
      dsimp only
      split
      · exact (Arranger.sameList_hover s.arranger _ now).items
      · rfl
    | release => exact s.arranger.commit_rearranges now
    | other => rfl
  | tick now => exact (Arranger.sameList_tick s.arranger now).items
  | draw screen => rfl

/-- A run changes the order of the items just by the moves that it ends. -/
theorem run_rearranges (s : Sorting α) (events : List Event) :
    (s.run events).arranger.items =
      rearranged (slots s.arranger.items) (s.landings events) s.arranger.items := by
  induction events generalizing s with
  | nil => rfl
  | cons event rest ih =>
    rw [run_cons, ih, s.perform_rearranges event, Arrange.slots_rearranged, landings]
    exact List.foldl_append.symm

/-- The list index that the item with the given one had before the events. -/
def originOf? (s : Sorting α) (events : List Event) (index : Nat) : Option Nat :=
  (rearranged (slots s.arranger.items) (s.landings events)
    (List.range s.arranger.items.length))[index]?

/-- The item at an index after a run is the one that was at its origin. -/
theorem getElem?_run_iff {events : List Event} {index : Nat} {item : Item α} :
    (s.run events).arranger.items[index]? = some item ↔
      ∃ origin, s.originOf? events index = some origin ∧ s.arranger.items[origin]? = some item := by
  rw [run_rearranges]
  exact Arrange.getElem?_rearranged_iff

/-- A run whose moves end where they begin leaves the items alone. -/
theorem run_items_of_returned {events : List Event}
    (returned : ∀ move ∈ s.landings events, move.1 = move.2) :
    (s.run events).arranger.items = s.arranger.items := by
  rw [run_rearranges, Arrange.rearranged_of_returned returned]

/-! ## Pressing -/

/-- A press in a cell begins to drag the item. -/
def Grabs (s : Sorting α) (column row now : Nat) (item : Item α) : Prop :=
  ∃ box, s.hit column row = some box ∧ (s.arranger.beginDrag box.index).1 = true ∧
    (s.handleMouse .press column row now).arranger.subject? = some item

/-- A press takes the item that has the list index of the row, if it stands in a slot. -/
theorem grabs_iff {column row now : Nat} {item : Item α} :
    s.Grabs column row now item ↔ ∃ box, s.hit column row = some box ∧
      box.index ∈ slots s.arranger.items ∧ s.arranger.items[box.index]? = some item := by
  unfold Grabs handleMouse
  refine exists_congr fun box => and_congr_right fun found => ?_
  rw [found, Arranger.beginDrag_begins_iff]
  dsimp only
  refine and_congr_right fun slot => ?_
  obtain ⟨taken, takes, subject⟩ :=
    Arranger.takes_beginDrag (Arranger.beginDrag_begins_iff.mpr slot)
  cases takes with
  | pressed _ _ there _ => rw [subject, there]

/-- Where the painted rows are the same a press hits the same box. -/
theorem hit_of_sameRows {t : Sorting α} (same : SameRows s t) (column row : Nat) :
    t.hit column row = s.hit column row := by
  unfold hit
  rw [same.boxes]

/-- Before anything is painted nothing can be grabbed. -/
theorem not_grabs_of_unpainted (unpainted : s.boxes = []) {column row now : Nat} (item : Item α) :
    ¬ s.Grabs column row now item := by
  rintro ⟨box, found, -⟩
  unfold hit at found
  rw [unpainted] at found
  cases found

end Sorting

/-- No event paints the session. -/
def Undrawn (events : List Event) : Prop := ∀ event ∈ events, ∀ screen, event ≠ .draw screen

/-- In a list of events there is no drawing, or there is a last one. -/
theorem undrawn_or_exists_last_draw (events : List Event) :
    Undrawn events ∨
      ∃ before screen since, events = before ++ .draw screen :: since ∧ Undrawn since := by
  induction events with
  | nil => exact .inl nofun
  | cons event events ih =>
    rcases ih with undrawn | ⟨before, screen, since, rfl, undrawn⟩
    · cases event with
      | draw screen => exact .inr ⟨[], screen, events, rfl, undrawn⟩
      | _ => exact .inl (List.forall_mem_cons.mpr ⟨fun _ => Event.noConfusion, undrawn⟩)
    · exact .inr ⟨event :: before, screen, since, rfl, undrawn⟩

namespace Sorting

/-- Between two paintings a press takes the item that has the list index of the row by then. -/
theorem grabs_run_iff (s : Sorting α) (screen : Screen) {since : List Event}
    (undrawn : Undrawn since) {column row now : Nat} {item : Item α} :
    let drawn := (s.draw screen).2
    (drawn.run since).Grabs column row now item ↔ ∃ box, drawn.hit column row = some box ∧
      box.index ∈ slots s.arranger.items ∧
        (drawn.run since).arranger.items[box.index]? = some item := by
  intro drawn
  have same : SameRows drawn (drawn.run since) := drawn.sameRows_run undrawn
  have kept : slots (drawn.run since).arranger.items = slots s.arranger.items := by
    rw [run_rearranges]
    exact Arrange.slots_rearranged s.arranger.items _
  rw [grabs_iff, hit_of_sameRows same, kept]

/-- The row of a box shows in it, in a horizontal list if the lines of all rows are steady. -/
theorem showsIn_of_hit (s : Sorting α) {width height column row : Nat} {box : RowBox}
    (found : (s.draw (.blank width height)).2.hit column row = some box)
    (steady : s.arranger.config.orientation = .vertical ∨
      ∀ shown ∈ (s.draw (.blank width height)).2.boxes, s.Steady shown.index) :
    s.ShowsIn (s.draw (.blank width height)).1 box ∧ box.area.contains column row = true := by
  obtain ⟨member, inside⟩ := (s.hit_eq_some_iff _).mp found
  obtain ⟨k, there⟩ := List.mem_iff_getElem?.mp member
  refine ⟨s.showsIn_draw there (steady.imp_right ?_), inside⟩
  exact fun all shown among => all shown (List.mem_of_mem_take among)

end Sorting

/-- **A press takes the item that the row has by then.** A session that has not been painted yet is
given any events. If a press in a cell begins a drag, the session has been painted. Since the last
painting the cell belongs to one row, whose list index is that of a sortable item, and the press
takes the item that has this list index by now: the one that had the index `origin` when the session
was painted, before the moves that have landed since. If each of them ended where it began, this is
the item of the row as it was painted, and the line of that item shows in the row. In a horizontal
list this last part needs that the lines of the rows are as wide as their glyphs. -/
theorem presses_take_the_item_of_the_index (start : Sorting α) (unpainted : start.boxes = []) :
    (∀ events column row now item, (start.run events).Grabs column row now item →
      ∃ before screen since, events = before ++ .draw screen :: since ∧ Undrawn since) ∧
    ∀ before screen since, Undrawn since → ∀ column row now,
      let shown := start.run before
      let drawn := (shown.draw screen).2
      let items := shown.arranger.items
      let later := start.run (before ++ .draw screen :: since)
      (∀ item, later.Grabs column row now item ↔ ∃ box origin,
        drawn.hit column row = some box ∧ box.index ∈ slots items ∧
          drawn.originOf? since box.index = some origin ∧ items[origin]? = some item) ∧
      ((∀ move ∈ drawn.landings since, move.1 = move.2) →
        ∀ item, later.Grabs column row now item ↔ ∃ box,
          drawn.hit column row = some box ∧ box.index ∈ slots items ∧
            items[box.index]? = some item) ∧
      ∀ width height box, screen = .blank width height → drawn.hit column row = some box →
        (shown.arranger.config.orientation = .vertical ∨
          ∀ other ∈ drawn.boxes, shown.Steady other.index) →
        shown.ShowsIn (shown.draw screen).1 box ∧ box.area.contains column row = true := by
  refine ⟨?_, ?_⟩
  · intro events column row now item grabs
    obtain undrawn | painted := undrawn_or_exists_last_draw events
    · have same : Sorting.SameRows start (start.run events) := start.sameRows_run undrawn
      exact absurd grabs (Sorting.not_grabs_of_unpainted (same.boxes.trans unpainted) item)
    · exact painted
  intro before screen since undrawn column row now shown drawn items later
  have run : later = drawn.run since := by
    unfold later Sorting.run
    rw [List.foldl_append]
    rfl
  have grabs (item : Item α) : later.Grabs column row now item ↔ ∃ box,
      drawn.hit column row = some box ∧ box.index ∈ slots items ∧
        (drawn.run since).arranger.items[box.index]? = some item := by
    rw [run]
    exact shown.grabs_run_iff screen undrawn
  refine ⟨fun item => ?_, fun returned item => ?_, ?_⟩
  · rw [grabs]
    refine exists_congr fun box => ?_
    rw [Sorting.getElem?_run_iff]
    simp only [exists_and_left]
    rfl
  · rw [grabs, Sorting.run_items_of_returned returned]
    rfl
  · rintro width height box rfl found steady
    exact shown.showsIn_of_hit found steady

/-- Three rows, one below the other. -/
def threeRows : Sorting String where
  arranger := .ofValues {} ["a", "b", "c"]
  label := id

/-- The keys that take the first item one place on. -/
def firstItemOn : List Event :=
  [.key { code := .down } 0, .key { code := .char ' ' } 0, .key { code := .down } 0,
    .key { code := .char ' ' } 0]

/-- Once the session is painted again the first row is that of the item that stands there now, and a
key or a tick in between makes no difference. -/
theorem presses_take_the_item_of_the_index_repainted :
    let screen := Screen.blank 30 10
    let since : List Event := [.key { code := .down } 1, .tick 2]
    let shown := threeRows.run (.draw screen :: firstItemOn)
    let later := threeRows.run (.draw screen :: firstItemOn ++ .draw screen :: since)
    later.Grabs 4 1 3 ⟨"b", true⟩ ∧
      shown.ShowsIn (shown.draw screen).1 ⟨0, { x := 2, y := 1, width := 26, height := 1 }⟩ := by
  intro screen since shown later
  obtain ⟨-, holds⟩ := presses_take_the_item_of_the_index threeRows rfl
  have undrawn : Undrawn since := by simp [Undrawn, since]
  obtain ⟨-, stays, shows⟩ := holds (.draw screen :: firstItemOn) screen since undrawn 4 1 3
  -- The sessions are written out here, as unfolding their names would compute them.
  have vertical : (threeRows.run (.draw screen :: firstItemOn)).arranger.config.orientation =
      .vertical := by decide +kernel
  have found : ((threeRows.run (.draw screen :: firstItemOn)).draw screen).2.hit 4 1 =
      some ⟨0, { x := 2, y := 1, width := 26, height := 1 }⟩ := by decide +kernel
  obtain ⟨showsLine, -⟩ := shows 30 10 _ rfl found (.inl vertical)
  refine ⟨(stays ?_ ⟨"b", true⟩).mpr ⟨_, found, ?_, ?_⟩, showsLine⟩
  · decide +kernel
  · decide +kernel
  · decide +kernel

/-- A press before the session is painted again takes another item than its row shows. -/
theorem press_after_landing_takes_another_item :
    let screen := Screen.blank 30 10
    let drawn := threeRows.draw screen
    let later := threeRows.run (.draw screen :: firstItemOn)
    drawn.1.cell? 4 1 = some { symbol := ['a'] } ∧ later.Grabs 4 1 0 ⟨"b", true⟩ ∧
      ¬ later.Grabs 4 1 0 ⟨"a", true⟩ := by
  intro screen drawn later
  have painted : drawn.2.hit 4 1 = some ⟨0, { x := 2, y := 1, width := 26, height := 1 }⟩ := by
    decide +kernel
  obtain ⟨⟨line, here, shows⟩, -⟩ := threeRows.showsIn_of_hit painted (.inl rfl)
  obtain rfl : View.itemLine threeRows.theme .normal "a" = line := Option.some.inj here
  have cell : ((View.itemLine threeRows.theme .normal "a").cells 26)[2]? =
      some { symbol := ['a'] } := by decide +kernel
  have found : later.hit 4 1 = some ⟨0, { x := 2, y := 1, width := 26, height := 1 }⟩ := by
    decide +kernel
  have there : later.arranger.items[0]? = some ⟨"b", true⟩ := by decide +kernel
  have slot : 0 ∈ slots later.arranger.items := by decide +kernel
  refine ⟨(shows 2 (by decide)).trans cell, Sorting.grabs_iff.mpr ⟨_, found, slot, there⟩, ?_⟩
  intro grabs
  obtain ⟨box, found', -, there'⟩ := Sorting.grabs_iff.mp grabs
  obtain rfl := Option.some.inj (found.symm.trans found')
  rw [there] at there'
  exact absurd there' (by decide)

end Session

end Picklist
