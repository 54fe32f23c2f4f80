import Picklist.Proofs.Arrange.Positions
import Picklist.Proofs.Arrange.Relocation

/-!
# The item a gesture is about

Every gesture is about one sortable item: the one in focus, the one that is moved, or the one that
has just landed. The gesture knows that item by its position among the sortable items, while roles
are asked for by list index. Slots and positions being inverse to each other, the item at that
position plays the part that goes with the gesture, the other sortable items are normal ones, and
the rest is pinned.
-/

set_option autoImplicit false

namespace Picklist.Arrange

variable {α : Type}

/-- The position of the item that the gesture is about. -/
def Gesture.subject? : Gesture → Option Nat
  | idle => none
  | selecting focus => some focus
  | grabbed source _ => some source
  | dragging source _ => some source
  | settling position _ => some position

/-- The part that this item plays. -/
def Gesture.part : Gesture → Role
  | idle => .normal
  | selecting _ => .focused
  | grabbed _ _ => .moving
  | dragging _ _ => .moving
  | settling _ _ => .settling

/-- The role of an item that the gesture is about. -/
def Role.TakesPart (role : Role) : Prop :=
  role ≠ .normal ∧ role ≠ .pinned

namespace Gesture

variable {gesture : Gesture} {position source drop : Nat}

/-- Whoever takes part does so in the part of the gesture. -/
theorem part_takesPart (about : gesture.subject? = some position) : gesture.part.TakesPart := by
  cases gesture with
  | idle => cases about
  | selecting | grabbed | dragging | settling => exact ⟨Role.noConfusion, Role.noConfusion⟩

/-- Only an idle arranger is about no item. -/
theorem subject?_eq_none_iff : gesture.subject? = none ↔ gesture = .idle := by
  cases gesture <;> simp [subject?]

/-- The item that a gesture is about is among its positions. -/
theorem mem_positions_of_subject? (about : gesture.subject? = some position) :
    position ∈ gesture.positions := by
  cases gesture <;> simp_all [subject?, positions]

/-- A move is about the item at its source. -/
theorem of_move? (moving : gesture.move? = some (source, drop)) :
    gesture.subject? = some source ∧ gesture.part = .moving := by
  cases gesture <;> simp_all [move?, subject?, part]

end Gesture

/-! ## Items by their position -/

/-- The sortable item at a position. -/
def itemAt? (items : List (Item α)) (position : Nat) : Option (Item α) :=
  (items.filter (·.sortable))[position]?

/-- The item at a position is the one at the index with that position. -/
theorem itemAt?_eq_some_iff {items : List (Item α)} {position : Nat} {item : Item α} :
    itemAt? items position = some item ↔
      ∃ index, positionOf items index = some position ∧ items[index]? = some item := by
  have read := congrArg (·[position]?) (map_getElem?_slots items)
  simp only [List.getElem?_map] at read
  simp only [positionOf_eq_some_iff]
  calc itemAt? items position = some item
    _ ↔ (itemAt? items position).map some = some (some item) := by simp
    _ ↔ (slots items)[position]?.map (items[·]?) = some (some item) := by rw [read]; rfl
    _ ↔ ∃ index, (slots items)[position]? = some index ∧ items[index]? = some item :=
      Option.map_eq_some_iff

/-- There is an item at every position. -/
theorem exists_itemAt? {items : List (Item α)} {position : Nat}
    (inside : position < sortableCount items) : ∃ item, itemAt? items position = some item := by
  rw [sortableCount, List.countP_eq_length_filter] at inside
  exact ⟨_, List.getElem?_eq_getElem inside⟩

/-- No two items have the same position. -/
theorem positionOf_injective {items : List (Item α)} {index other position : Nat}
    (found : positionOf items index = some position)
    (found' : positionOf items other = some position) : index = other := by
  rw [positionOf_eq_some_iff] at found found'
  exact Option.some.inj (found.symm.trans found')

/-- The search for a slot finds the position. -/
theorem idxOf?_slots (items : List (Item α)) (index : Nat) :
    (slots items).idxOf? index = positionOf items index := by
  cases found : positionOf items index with
  | none =>
    rw [List.idxOf?_eq_none_iff]
    intro slot
    obtain ⟨position, there⟩ := List.mem_iff_getElem?.mp slot
    rw [positionOf_eq_some_iff.mpr there] at found
    cases found
  | some position =>
    obtain ⟨inside, there⟩ := List.getElem?_eq_some_iff.mp (positionOf_eq_some_iff.mp found)
    rw [List.idxOf?_eq_some_iff]
    refine ⟨inside, there, ?_⟩
    intro earlier before same
    have again := (slots_nodup items).getElem_inj_iff.mp (same.trans there.symm)
    omega

/-! ## Roles -/

/-- The item with a list index plays a part. -/
structure Plays (a : Arranger α) (role : Role) (index : Nat) (item : Item α) : Prop where
  there : a.items[index]? = some item
  role : a.snapshot.role index = role

namespace Arranger

variable {a : Arranger α} {index position : Nat} {item : Item α} {role : Role}

/-- An item without a position is pinned. -/
theorem role_of_pinned (pinned : positionOf a.items index = none) :
    a.snapshot.role index = .pinned := by
  unfold snapshot Snapshot.role
  dsimp only
  rw [idxOf?_slots, pinned]

/-- A sortable item plays the part that goes with the gesture if the gesture is about it. -/
theorem role_of_sortable (found : positionOf a.items index = some position) :
    a.snapshot.role index =
      if a.gesture.subject? = some position then a.gesture.part else .normal := by
  unfold snapshot Snapshot.role
  dsimp only
  rw [idxOf?_slots, found]
  cases a.gesture <;> simp [Gesture.subject?, Gesture.part]

/-- The items that take part are those at the position that the gesture is about. -/
theorem takesPart_iff :
    (a.snapshot.role index).TakesPart ↔
      ∃ position, a.gesture.subject? = some position ∧
        positionOf a.items index = some position := by
  constructor
  · rintro ⟨unusual, unpinned⟩
    cases found : positionOf a.items index with
    | none => exact absurd (role_of_pinned found) unpinned
    | some position =>
      rw [role_of_sortable found] at unusual
      refine ⟨position, ?_, rfl⟩
      by_contra other
      rw [if_neg other] at unusual
      exact unusual rfl
  · rintro ⟨position, about, found⟩
    rw [role_of_sortable found, if_pos about]
    exact Gesture.part_takesPart about

/-- A gesture is about one item at most. -/
theorem takesPart_unique {other : Nat} (here : (a.snapshot.role index).TakesPart)
    (there : (a.snapshot.role other).TakesPart) : index = other := by
  obtain ⟨position, about, found⟩ := takesPart_iff.mp here
  obtain ⟨position', about', found'⟩ := takesPart_iff.mp there
  obtain rfl : position = position' := Option.some.inj (about.symm.trans about')
  exact positionOf_injective found found'

/-- The pinned role is that of the items which are not sortable. -/
theorem role_eq_pinned_iff (there : a.items[index]? = some item) :
    a.snapshot.role index = .pinned ↔ item.sortable = false := by
  cases found : positionOf a.items index with
  | none =>
    rw [role_of_pinned found]
    unfold positionOf at found
    rw [there] at found
    simpa using found
  | some position =>
    rw [role_of_sortable found]
    unfold positionOf at found
    rw [there] at found
    have sortable : item.sortable = true := by
      by_contra pinned
      simp [pinned] at found
    rw [sortable]
    cases a.gesture <;> simp [Gesture.subject?, Gesture.part] <;> split <;> simp

/-! ## The subject -/

/-- The item that the gesture is about. -/
def subject? (a : Arranger α) : Option (Item α) :=
  a.gesture.subject?.bind (itemAt? a.items)

/-- The subject plays the part that goes with the gesture. -/
theorem exists_plays (subject : a.subject? = some item) :
    ∃ index, Plays a a.gesture.part index item := by
  obtain ⟨position, about, here⟩ := Option.bind_eq_some_iff.mp subject
  obtain ⟨index, found, there⟩ := itemAt?_eq_some_iff.mp here
  refine ⟨index, there, ?_⟩
  rw [role_of_sortable found, if_pos about]

/-- An item that takes part has the part of the gesture. -/
theorem part_of_takesPart (takesPart : (a.snapshot.role index).TakesPart) :
    a.snapshot.role index = a.gesture.part := by
  obtain ⟨position, about, found⟩ := takesPart_iff.mp takesPart
  rw [role_of_sortable found, if_pos about]

end Arranger

/-- Who takes part is the subject. -/
theorem Plays.subject? {a : Arranger α} {role : Role} {index : Nat} {item : Item α}
    (plays : Plays a role index item) (takesPart : role.TakesPart) :
    a.subject? = some item ∧ a.gesture.part = role := by
  obtain ⟨there, rfl⟩ := plays
  obtain ⟨position, about, found⟩ := Arranger.takesPart_iff.mp takesPart
  refine ⟨?_, (Arranger.part_of_takesPart takesPart).symm⟩
  rw [Arranger.subject?, about]
  exact itemAt?_eq_some_iff.mpr ⟨index, found, there⟩

/-- There is a subject except at rest. -/
theorem Within.exists_subject {count : Nat} {a : Arranger α} (h : Within count a)
    (busy : a.gesture ≠ .idle) : ∃ item, a.subject? = some item := by
  obtain ⟨position, about⟩ :=
    Option.ne_none_iff_exists'.mp (mt Gesture.subject?_eq_none_iff.mp busy)
  have inside : position < a.total := by
    rw [h.total]
    exact h.gesture position (Gesture.mem_positions_of_subject? about)
  obtain ⟨item, here⟩ := exists_itemAt? inside
  exact ⟨item, by rw [Arranger.subject?, about]; exact here⟩

/-- Except at rest exactly one item takes part. -/
theorem Within.existsUnique_takesPart {count : Nat} {a : Arranger α} (h : Within count a)
    (busy : a.gesture ≠ .idle) : ∃! index, (a.snapshot.role index).TakesPart := by
  obtain ⟨item, subject⟩ := h.exists_subject busy
  obtain ⟨position, about, -⟩ := Option.bind_eq_some_iff.mp subject
  obtain ⟨index, plays⟩ := Arranger.exists_plays subject
  have takesPart : (a.snapshot.role index).TakesPart := by
    rw [plays.role]
    exact Gesture.part_takesPart about
  exact ⟨index, takesPart, fun other there => Arranger.takesPart_unique there takesPart⟩

end Picklist.Arrange
