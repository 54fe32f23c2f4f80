import Picklist.Proofs.Select.Frame

/-!
# The strokes that an action is made of

Whatever a caller does, and whatever the search worker answers, the select list changes by strokes
of a few kinds: the search behind the list goes on, the list is filtered anew, a choice enters or
leaves the selection, the list opens or closes, or the highlight takes a step. A stroke that changes
the selection comes with the event that the caller is told. Inserting choices without events is not
made of strokes and is the only action that is not.
-/

set_option autoImplicit false

namespace Picklist.Select

/-! ## What an action tells -/

/-- The action inserts choices into the selection without events. -/
def Action.Seeds (action : Action) : Prop :=
  ∃ choices, action = .step (.operation (.withSelected choices))

namespace Selector

/-- The event that an operation answers with. -/
def answerTo (s : Selector) : Operation → Option Event
  | .select choice => (s.select choice).1
  | .remove key => (s.remove key).1
  | .commitHighlighted => s.commitHighlighted.1
  | .press key => (s.handleKey key).1
  | .setQuery _ _ | .tick _ | .handOn _ | .pump | .read | .setCandidates _ | .moveHighlight _
  | .openList | .close | .withHooks _ | .withSelected _ => none

/-- The event that an action tells. -/
def tells (s : Selector) : Action → Option Event
  | .step (.operation operation) => s.answerTo operation
  | .step (.worker _) | .attach => none

/-- The events that a number of actions tell, in order. -/
def story (s : Selector) : List Action → List Event
  | [] => []
  | action :: rest => (s.tells action).toList ++ (s.act action).story rest

end Selector

/-! ## Strokes -/

/-- The ways in which a select list changes at a time, with the events told. -/
inductive Stroke (s : Selector) : List Event → Selector → Prop where
  /-- The search goes on behind the list. -/
  | behind (search : Option Exchange) (pendingSearch : Timing.Debouncer String) :
    Stroke s [] { s with search, pendingSearch }
  /-- The list is filtered anew, whatever has changed besides settings and selection. -/
  | relisted (t : Selector) (config : t.config = s.config) (selected : t.selected = s.selected) :
    Stroke s [] t.refilter
  | added (choice : Choice) (enabled : choice.disabled = false)
    (multiple : s.config.multiple = true) (fresh : s.selected.contains choice.key = false) :
    Stroke s [.selected choice] { s with selected := s.selected.insert choice }.refilter
  | replaced (choice : Choice) (enabled : choice.disabled = false)
    (single : s.config.multiple = false) :
    Stroke s [.selected choice] { s with selected := Selection.insert {} choice }.close.refilter
  | removed (key : String) (choice : Choice) (stored : s.selected.find? key = some choice) :
    Stroke s [.removed choice] { s with selected := s.selected.erase key }.refilter
  | closed : Stroke s [] s.close
  | opened : Stroke s [] s.openList
  /-- The highlight takes a step; an arrow key opens a closed list with it. -/
  | stepped (direction : Direction) (isOpen : Bool) :
    Stroke s [] ({ s with isOpen }.moveHighlight direction).2
  /-- An arrow key opens the list where something is highlighted already. -/
  | shown (highlighted : s.highlighted.isSome = true) : Stroke s [] { s with isOpen := true }

/-- One stroke after the other, with all events told. -/
inductive Strokes (s : Selector) : List Event → Selector → Prop where
  | refl : Strokes s [] s
  | tail {t u : Selector} {events more : List Event} (before : Strokes s events t)
    (last : Stroke t more u) : Strokes s (events ++ more) u

namespace Strokes

variable {s t u : Selector} {events more : List Event}

/-- A single stroke is a number of strokes. -/
theorem single (h : Stroke s events t) : Strokes s events t :=
  Strokes.tail .refl h

/-- Strokes behind strokes are strokes. -/
theorem trans (h : Strokes s events t) (k : Strokes t more u) : Strokes s (events ++ more) u := by
  induction k with
  | refl =>
    rw [List.append_nil]
    exact h
  | tail _ last ih =>
    rw [← List.append_assoc]
    exact ih.tail last

/-- What a stroke keeps is kept by many. -/
theorem keep {holds : Selector → Prop}
    (kept : ∀ {t u : Selector} {events : List Event}, Stroke t events u → holds t → holds u)
    (strokes : Strokes s events t) (start : holds s) : holds t := by
  induction strokes with
  | refl => exact start
  | tail _ last ih => exact kept last ih

end Strokes

/-! ## Strokes of the operations -/

namespace Selector

variable (s : Selector)

/-- Handing on is a stroke that tells nothing. -/
theorem stroke_issueDueSearch (now : Nat) : Stroke s [] (s.issueDueSearch now) := by
  unfold issueDueSearch
  split
  · exact .behind _ _
  · exact .behind s.search _

/-- Typing is made of strokes that tell nothing. -/
theorem strokes_setQuery (query : String) (now : Nat) : Strokes s [] (s.setQuery query now) := by
  have changed : Strokes s [] (s.changeQuery query) := .single (.relisted _ rfl rfl)
  unfold setQuery
  dsimp only
  split
  · have scheduled : Stroke (s.changeQuery query) [] ((s.changeQuery query).scheduleSearch now) :=
      .behind _ _
    exact (changed.tail scheduled).tail (stroke_issueDueSearch _ now)
  · exact changed

/-- A turn of a pump is made of strokes that tell nothing. -/
theorem strokes_readResponse : Strokes s [] s.readResponse.2 := by
  have behind (search : Option Exchange) : Strokes s [] { s with search } :=
    .single (.behind search s.pendingSearch)
  unfold readResponse
  split
  · exact .refl
  · split
    · unfold handleResponse
      split
      · exact behind _
      · split
        · dsimp only
          split
          · exact .single (.relisted _ rfl rfl)
          · exact behind _
        · exact behind _
    · exact behind _

/-- Turns of a pump are made of strokes that tell nothing. -/
theorem strokes_readResponses (turns : Nat) : Strokes s [] (s.readResponses turns).2 := by
  induction turns generalizing s with
  | zero => exact .refl
  | succ turns ih => exact (strokes_readResponse s).trans (ih s.readResponse.2)

/-- Selecting a choice is made of strokes that tell its event. -/
theorem strokes_select (choice : Choice) :
    Strokes s (s.select choice).1.toList (s.select choice).2 := by
  unfold select
  by_cases disabled : choice.disabled = true
  · rw [if_pos disabled]
    exact .refl
  · have enabled : choice.disabled = false := by simpa using disabled
    rw [if_neg disabled]
    by_cases multiple : s.config.multiple = true
    · rw [if_pos multiple]
      by_cases stored : s.selected.contains choice.key = true
      · rw [if_pos stored]
        exact .refl
      · rw [if_neg stored]
        exact .single (.added choice enabled multiple (by simpa using stored))
    · rw [if_neg multiple]
      split
      · exact .single .closed
      · exact .single (.replaced choice enabled (by simpa using multiple))

/-- Removing a choice is made of strokes that tell its event. -/
theorem strokes_remove (key : String) : Strokes s (s.remove key).1.toList (s.remove key).2 := by
  unfold remove
  split
  · rename_i choice stored
    exact .single (.removed key choice stored)
  · exact .refl

/-- Committing the highlighted choice is made of strokes that tell its event. -/
theorem strokes_commitHighlighted :
    Strokes s s.commitHighlighted.1.toList s.commitHighlighted.2 := by
  unfold commitHighlighted
  split
  · exact strokes_select s _
  · exact .refl

/-- An arrow is a stroke that tells nothing. -/
theorem stroke_arrow (direction : Direction) : Stroke s [] (s.arrow direction) := by
  unfold arrow
  split
  · exact .stepped direction s.isOpen
  · dsimp only
    split
    · exact .stepped direction true
    · rename_i present
      exact .shown (by simpa [Option.isSome_iff_ne_none] using present)

/-- A key is made of strokes that tell its event. -/
theorem strokes_handleKey (key : Key) :
    Strokes s (s.handleKey key).1.toList (s.handleKey key).2 := by
  unfold handleKey
  cases key with
  | up => exact .single (stroke_arrow s .backward)
  | down => exact .single (stroke_arrow s .forward)
  | enter =>
    dsimp only
    split
    · exact strokes_commitHighlighted s
    · exact .refl
  | escape => exact .single .closed
  | tab => exact .single .closed
  | backspace =>
    dsimp only
    split
    · split
      · exact strokes_remove s _
      · exact .refl
    · exact .refl

/-- Every action that inserts no choices without events is made of strokes, and tells their
events. -/
theorem strokes_act {action : Action} (unseeded : ¬ action.Seeds) :
    Strokes s (s.tells action).toList (s.act action) := by
  cases action with
  | attach => exact .single (.behind (some {}) s.pendingSearch)
  | step step =>
    cases step with
    | worker move => exact .single (.behind _ s.pendingSearch)
    | operation operation =>
      cases operation with
      | setQuery query now => exact strokes_setQuery s query now
      | tick now =>
        exact (Strokes.single (stroke_issueDueSearch s now)).trans (strokes_readResponses _ _)
      | handOn now => exact .single (stroke_issueDueSearch s now)
      | pump => exact strokes_readResponses s _
      | read => exact strokes_readResponse s
      | setCandidates candidates => exact .single (.relisted _ rfl rfl)
      | select choice => exact strokes_select s choice
      | remove key => exact strokes_remove s key
      | moveHighlight direction => exact .single (.stepped direction s.isOpen)
      | commitHighlighted => exact strokes_commitHighlighted s
      | press key => exact strokes_handleKey s key
      | openList => exact .single .opened
      | close => exact .single .closed
      | withHooks hooks => exact .single (.relisted _ rfl rfl)
      | withSelected choices => exact absurd ⟨choices, rfl⟩ unseeded

end Selector

/-! ## Settings -/

/-- No stroke changes the settings. -/
theorem Stroke.config {s t : Selector} {events : List Event} (stroke : Stroke s events t) :
    t.config = s.config := by
  cases stroke with
  | relisted t config => rw [Selector.refilter_config, config]
  | opened =>
    obtain ⟨_, same⟩ := Selector.applyAutoHighlight_eq { s with isOpen := true }
    show Selector.config (Selector.applyAutoHighlight { s with isOpen := true }) = _
    rw [same]
  | added => rw [Selector.refilter_config]
  | replaced => exact Selector.refilter_config _
  | removed => rw [Selector.refilter_config]
  | _ => rfl

namespace Selector

/-- What every stroke keeps and inserting choices without events keeps is kept by every action. -/
theorem act_keep {holds : Selector → Prop}
    (stroke : ∀ {t u : Selector} {events : List Event}, Stroke t events u → holds t → holds u)
    (seed : ∀ (t : Selector) (choices : List Choice), holds t → holds (t.withSelected choices))
    (s : Selector) (action : Action) (start : holds s) : holds (s.act action) := by
  by_cases seeds : action.Seeds
  · obtain ⟨choices, rfl⟩ := seeds
    exact seed s choices start
  · exact (s.strokes_act seeds).keep stroke start

/-- No action changes the settings. -/
theorem act_config (s : Selector) (action : Action) : (s.act action).config = s.config := by
  apply @act_keep (fun t => t.config = s.config) _ _ s action rfl
  · intro t u events stroke same
    rw [stroke.config, same]
  · intro t choices same
    exact (refilter_config _).trans same

/-- The settings last for a whole life. -/
theorem live_config (s : Selector) (actions : List Action) :
    (s.live actions).config = s.config := by
  refine @live_induction (fun t => t.config = s.config) s rfl ?_ actions
  intro t action same
  rw [act_config, same]

end Selector

end Picklist.Select
