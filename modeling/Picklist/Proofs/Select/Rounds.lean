import Picklist.Proofs.Lists
import Picklist.Proofs.Select.Highlight
import Picklist.Proofs.Walk

/-!
# The highlight goes round

A move of the highlight, by a call or by an arrow key of the open list, changes the highlight and
nothing else, so any number of them is a walk through the places of the list. A highlight lies
inside the list at every point of a life, and the walk starts there. Without a highlight the first
move starts it at one of the ends.
-/

set_option autoImplicit false

namespace Picklist.Select

/-- A move of the highlight: a call, or an arrow key. -/
structure HighlightMove where
  direction : Direction
  byKey : Bool
  deriving Repr, DecidableEq

/-- The operation that makes the move. -/
def HighlightMove.operation : HighlightMove → Operation
  | ⟨direction, false⟩ => .moveHighlight direction
  | ⟨.forward, true⟩ => .press .down
  | ⟨.backward, true⟩ => .press .up

namespace Selector

/-- The list can make these moves: it is open, or they are calls. -/
def Takes (s : Selector) (moves : List HighlightMove) : Prop :=
  ∀ move ∈ moves, move.byKey = true → s.isOpen = true

/-- The select list after a number of moves of the highlight. -/
def highlightRun (s : Selector) (moves : List HighlightMove) : Selector :=
  moves.foldl (fun s move => s.perform move.operation) s

/-- An arrow key of an open list does what the call does. -/
theorem perform_highlightMove {s : Selector} {move : HighlightMove}
    (usable : move.byKey = true → s.isOpen = true) :
    s.perform move.operation = (s.moveHighlight move.direction).2 := by
  obtain ⟨direction, byKey⟩ := move
  cases byKey with
  | false => rfl
  | true =>
    cases direction with
    | forward => exact if_pos (usable rfl)
    | backward => exact if_pos (usable rfl)

variable {s : Selector} {index : Nat}

/-- From a highlighted place a move leads to the next one, over the ends of the list. -/
theorem moveHighlight_of_some (highlighted : s.highlighted = some index)
    (inside : index < s.filtered.length) (direction : Direction) :
    (s.moveHighlight direction).2 =
      { s with highlighted := some (placeAfter s.filtered.length index direction.stride) } := by
  have places : 0 < s.filtered.length := by omega
  unfold moveHighlight
  dsimp only
  rw [if_neg (by omega), highlighted]
  dsimp only
  rw [direction.stepWrapping_eq index places]

/-- Where nothing is highlighted a move enters the list. -/
theorem moveHighlight_of_none (highlighted : s.highlighted = none)
    (results : 0 < s.filtered.length) (direction : Direction) :
    (s.moveHighlight direction).2 =
      { s with highlighted := some (direction.entry s.filtered.length) } := by
  unfold moveHighlight
  dsimp only
  rw [if_neg (by omega), highlighted]

/-- Any number of moves is a walk. -/
theorem highlightRun_of_some (highlighted : s.highlighted = some index)
    (inside : index < s.filtered.length) {moves : List HighlightMove} (takes : s.Takes moves) :
    s.highlightRun moves =
      { s with
        highlighted := some (placeAfter s.filtered.length index
          (Direction.distance (moves.map HighlightMove.direction))) } := by
  have places : 0 < s.filtered.length := by omega
  induction moves generalizing s index with
  | nil =>
    show s = { s with highlighted := some (placeAfter s.filtered.length index 0) }
    rw [placeAfter_zero inside, ← highlighted]
  | cons move moves ih =>
    obtain ⟨usable, rest⟩ := List.forall_mem_cons.mp takes
    let next := placeAfter s.filtered.length index move.direction.stride
    have inside' : next < s.filtered.length := placeAfter_lt places index _
    have moved : ({ s with highlighted := some next } : Selector).highlightRun moves = _ :=
      ih rfl inside' rest places
    rw [List.map_cons, Direction.distance_cons, ← placeAfter_placeAfter places]
    show (s.perform move.operation).highlightRun moves = _
    rw [perform_highlightMove usable, moveHighlight_of_some highlighted inside, moved]

/-- As many moves in one direction as there are results lead back. -/
theorem highlightRun_round (highlighted : s.highlighted = some index)
    (inside : index < s.filtered.length) {move : HighlightMove} (takes : s.Takes [move]) :
    s.highlightRun (List.replicate s.filtered.length move) = s := by
  have takes' : s.Takes (List.replicate s.filtered.length move) := by
    intro other member
    rw [List.eq_of_mem_replicate member]
    exact takes move List.mem_cons_self
  rw [highlightRun_of_some highlighted inside takes', List.map_replicate,
    Direction.distance_replicate, placeAfter_length inside, ← highlighted]

/-- A move and a move back lead back. -/
theorem highlightRun_back (highlighted : s.highlighted = some index)
    (inside : index < s.filtered.length) {move back : HighlightMove}
    (opposite : back.direction = move.direction.opposite) (takes : s.Takes [move, back]) :
    s.highlightRun [move, back] = s := by
  rw [highlightRun_of_some highlighted inside takes, List.map_cons, List.map_cons, List.map_nil,
    opposite, Direction.distance_back, placeAfter_zero inside, ← highlighted]

/-- Once round, forward, every result is highlighted once. -/
theorem highlightedChoices_round (highlighted : s.highlighted = some index)
    (inside : index < s.filtered.length) {move : HighlightMove}
    (forward : move.direction = .forward) (takes : s.Takes [move]) :
    ((List.range s.filtered.length).map fun moves =>
        (s.highlightRun (List.replicate (moves + 1) move)).highlightedChoice?).Perm
      (s.filtered.map some) := by
  have here (moves : Nat) : (s.highlightRun (List.replicate (moves + 1) move)).highlightedChoice? =
      s.filtered[placeAfter s.filtered.length index (moves + 1)]? := by
    have takes' : s.Takes (List.replicate (moves + 1) move) := by
      intro other member
      rw [List.eq_of_mem_replicate member]
      exact takes move List.mem_cons_self
    rw [highlightRun_of_some highlighted inside takes', List.map_replicate,
      Direction.distance_replicate, forward]
    show s.filtered[placeAfter s.filtered.length index ((moves + 1 : Nat) * 1)]? = _
    rw [Int.mul_one, Int.natCast_succ]
  calc (List.range s.filtered.length).map fun moves =>
        (s.highlightRun (List.replicate (moves + 1) move)).highlightedChoice?
    _ = ((List.range s.filtered.length).map fun moves : Nat =>
          placeAfter s.filtered.length index (moves + 1)).map (s.filtered[·]?) := by
      simp only [here, List.map_map, Function.comp_def]
    _ = ((List.range s.filtered.length).rotate (index + 1)).map (s.filtered[·]?) := by
      rw [map_placeAfter_range]
    List.Perm _ ((List.range s.filtered.length).map (s.filtered[·]?)) :=
      (List.rotate_perm _ _).map _
    _ = s.filtered.map some := map_getElem?_range s.filtered

end Selector

/-- **The highlight goes round.** At every point of a life: from a highlighted place any moves of
the highlight lead as many places on, modulo the number of results, as they have more steps forward
than backward, and change nothing but the highlight. So once round leads back, as does a step and a
step back, and once round forward highlights every result once. Without a highlight the first move
highlights the first result, or the last. If the results can be stored, no index leaves a word on
the way. -/
theorem highlight_goes_round (config : Config) (candidates : List Choice)
    (actions : List Action) :
    let s := (Selector.ofChoices config candidates).live actions
    let count := s.filtered.length
    (∀ index moves, s.highlighted = some index → s.Takes moves →
      ∃ place : Nat, s.highlightRun moves = { s with highlighted := some place } ∧
        (place : Int) = (index + (moves.map HighlightMove.direction).count .forward
          - (moves.map HighlightMove.direction).count .backward) % count) ∧
      (∀ move, s.highlighted.isSome = true → s.Takes [move] →
        s.highlightRun (List.replicate count move) = s) ∧
      (∀ move back, s.highlighted.isSome = true → back.direction = move.direction.opposite →
        s.Takes [move, back] → s.highlightRun [move, back] = s) ∧
      (∀ move, s.highlighted.isSome = true → move.direction = .forward → s.Takes [move] →
        ((List.range count).map fun moves =>
            (s.highlightRun (List.replicate (moves + 1) move)).highlightedChoice?).Perm
          (s.filtered.map some)) ∧
      (∀ move, s.highlighted = none → 0 < count → s.Takes [move] →
        s.highlightRun [move] =
          { s with highlighted := some (if move.direction = .forward then 0 else count - 1) }) ∧
      (count < 2 ^ 63 → ∀ direction index,
        Direction.stepWords? direction index count =
          some (direction.stepWrapping index count)) := by
  intro s count
  have fits : HighlightFits s := HighlightFits.live config candidates actions
  have inside (index : Nat) (highlighted : s.highlighted = some index) : index < count :=
    fits.inside index highlighted
  refine ⟨?_, ?_, ?_, ?_, ?_, ?_⟩
  · intro index moves highlighted takes
    have places : 0 < count := Nat.zero_lt_of_lt (inside index highlighted)
    refine ⟨_, Selector.highlightRun_of_some highlighted (inside index highlighted) takes, ?_⟩
    rw [cast_placeAfter places, Direction.distance, Int.add_sub_assoc]
  · intro move present takes
    obtain ⟨index, highlighted⟩ := Option.isSome_iff_exists.mp present
    exact Selector.highlightRun_round highlighted (inside index highlighted) takes
  · intro move back present opposite takes
    obtain ⟨index, highlighted⟩ := Option.isSome_iff_exists.mp present
    exact Selector.highlightRun_back highlighted (inside index highlighted) opposite takes
  · intro move present forward takes
    obtain ⟨index, highlighted⟩ := Option.isSome_iff_exists.mp present
    exact Selector.highlightedChoices_round highlighted (inside index highlighted) forward takes
  · intro move highlighted results takes
    have usable := takes move List.mem_cons_self
    show s.perform move.operation = _
    rw [Selector.perform_highlightMove usable, Selector.moveHighlight_of_none highlighted results]
    cases move.direction <;> rfl
  · intro stored direction index
    exact direction.stepWords?_eq index stored

/-- Of three results none is highlighted when the list is opened, so the up arrow starts at the last
one. From the first one three steps forward and four back, by keys and by calls in turn, lead to the
last one as well, and three down arrows lead round. -/
theorem highlight_goes_round_mixed :
    let start := Selector.ofChoices {} [.ofLabel "Fig", .ofLabel "Kiwi", .ofLabel "Plum"]
    let opening : List Action := [.step (.operation .openList)]
    let entered : List Action := opening ++ [.step (.operation (.moveHighlight .forward))]
    let s := start.live entered
    let moves : List HighlightMove := [⟨.forward, true⟩, ⟨.forward, false⟩, ⟨.forward, true⟩,
      ⟨.backward, false⟩, ⟨.backward, true⟩, ⟨.backward, false⟩, ⟨.backward, true⟩]
    (start.live opening).highlighted = none ∧
      ((start.live opening).highlightRun [⟨.backward, true⟩]).highlighted = some 2 ∧
      s.highlighted = some 0 ∧ s.Takes moves ∧
      s.highlightRun moves = { s with highlighted := some 2 } ∧
      s.highlightRun (List.replicate 3 ⟨.forward, true⟩) = s := by
  intro start opening entered s moves
  have opened (t : Selector) (shown : t.isOpen = true) (moves : List HighlightMove) :
      t.Takes moves := fun _ _ _ => shown
  have here : s.highlighted = some 0 := by decide +kernel
  have count : s.filtered.length = 3 := by decide +kernel
  obtain ⟨walk, round, -⟩ := highlight_goes_round {}
    [.ofLabel "Fig", .ofLabel "Kiwi", .ofLabel "Plum"] entered
  obtain ⟨-, -, -, -, entry, -⟩ := highlight_goes_round {}
    [.ofLabel "Fig", .ofLabel "Kiwi", .ofLabel "Plum"] opening
  have usable : s.Takes moves := opened s (by decide +kernel) moves
  obtain ⟨place, ends, modular⟩ := walk 0 moves here usable
  have last : place = 2 := by
    have sum : (place : Int) = (0 + 3 - 4) % 3 := by
      rw [modular, count]
      rfl
    omega
  have first := entry ⟨.backward, true⟩ (by decide +kernel) (by decide +kernel)
    (opened _ (by decide +kernel) _)
  refine ⟨by decide +kernel, ?_, here, usable, last ▸ ends, ?_⟩
  · exact (congrArg Selector.highlighted first).trans (by decide +kernel)
  · have back := round ⟨.forward, true⟩ (by rw [here]; rfl) (opened s (by decide +kernel) _)
    rwa [count] at back

end Picklist.Select
