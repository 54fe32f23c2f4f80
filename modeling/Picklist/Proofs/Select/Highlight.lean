import Picklist.Proofs.Select.Stroke
import Picklist.View.SelectView

/-!
# The highlight addresses a row

The highlight is a bare place in a list that queries, answers, hooks and selections keep replacing.
It is right at every point of a life: it lies inside the list, and where the settings want one an
open list with results has one. Filtering anew and stepping put it right whatever it was before; the
other strokes leave the list as it is and keep it right.
-/

set_option autoImplicit false

namespace Picklist.Select

/-- The highlight lies inside the list, and is there where the settings want it. -/
structure HighlightFits (s : Selector) : Prop where
  inside : ∀ index, s.highlighted = some index → index < s.filtered.length
  present : s.config.autoHighlight = true → s.isOpen = true → s.filtered ≠ [] →
    s.highlighted.isSome = true

namespace HighlightFits

variable {s t : Selector} {events : List Event}

/-- Highlighting the first result where that is wanted needs only a highlight inside the list. -/
theorem applyAutoHighlight
    (inside : ∀ index, s.highlighted = some index → index < s.filtered.length) :
    HighlightFits s.applyAutoHighlight := by
  unfold Selector.applyAutoHighlight
  split
  · rename_i wanted
    simp only [Bool.and_eq_true, Bool.not_eq_true', List.isEmpty_eq_false_iff] at wanted
    refine ⟨?_, fun _ _ _ => rfl⟩
    intro index first
    obtain rfl : 0 = index := Option.some.inj first
    exact List.length_pos_iff.mpr wanted.2
  · rename_i unwanted
    refine ⟨inside, ?_⟩
    intro auto isOpen results
    have results : s.filtered.isEmpty = false := List.isEmpty_eq_false_iff.mpr results
    cases highlighted : s.highlighted with
    | some index => rfl
    | none => simp [auto, isOpen, highlighted, results] at unwanted

/-- A highlight that is clamped lies inside the list. -/
theorem clampHighlight (s : Selector) : HighlightFits s.clampHighlight := by
  unfold Selector.clampHighlight
  apply applyAutoHighlight
  intro index clamped
  show index < s.filtered.length
  dsimp only at clamped
  split at clamped
  · cases clamped
  · rename_i results
    have results : 0 < s.filtered.length := by
      rw [Bool.not_eq_true, List.isEmpty_eq_false_iff] at results
      exact List.length_pos_iff.mpr results
    obtain ⟨before, -, rfl⟩ := Option.map_eq_some_iff.mp clamped
    omega

/-- Filtering anew puts the highlight right. -/
theorem refilter (s : Selector) : HighlightFits s.refilter := clampHighlight _

/-- A step puts the highlight right. -/
theorem moveHighlight (s : Selector) (direction : Direction) :
    HighlightFits (s.moveHighlight direction).2 := by
  by_cases results : s.filtered = []
  · constructor
    · intro index stepped
      simp [Selector.moveHighlight, results] at stepped
    · intro _ _ some_results
      exact absurd results some_results
  · have places : 0 < s.filtered.length := List.length_pos_iff.mpr results
    have stepped : ∃ after, (s.moveHighlight direction).2.highlighted = some after ∧
        after < s.filtered.length := by
      simp only [Selector.moveHighlight, List.length_eq_zero_iff, if_neg results]
      cases s.highlighted with
      | none => exact ⟨_, rfl, direction.entry_lt places⟩
      | some before => exact direction.exists_stepWrapping before places
    obtain ⟨after, highlighted, inside⟩ := stepped
    constructor
    · intro index here
      rw [highlighted, Option.some.injEq] at here
      rw [← here]
      exact inside
    · intro _ _ _
      rw [highlighted]
      rfl

/-- Every stroke keeps the highlight right. -/
theorem stroke (stroke : Stroke s events t) (h : HighlightFits s) : HighlightFits t := by
  cases stroke with
  | behind => exact ⟨h.inside, h.present⟩
  | relisted t => exact refilter t
  | added => exact refilter _
  | replaced => exact refilter _
  | removed => exact refilter _
  | closed =>
    constructor
    · intro index none
      cases none
    · intro _ isOpen
      cases isOpen
  | opened => exact applyAutoHighlight h.inside
  | stepped direction => exact moveHighlight _ direction
  | shown highlighted => exact ⟨h.inside, fun _ _ _ => highlighted⟩

/-- The highlight lies inside the list at every point of a life. -/
theorem live (config : Config) (candidates : List Choice) (actions : List Action) :
    HighlightFits ((Selector.ofChoices config candidates).live actions) := by
  apply Selector.live_induction (refilter _)
  apply Selector.act_keep stroke
  intro t choices _
  exact refilter _

end HighlightFits

/-- **The highlight addresses a row.** After any actions of caller and worker on a new select list:
a highlight is inside the list and so is the choice there, an empty list has none, an open list with
results has one where the settings want it, and the highlight of the view is one of its rows. -/
theorem highlight_addresses_a_row (config : Config) (candidates : List Choice)
    (actions : List Action) :
    let s := (Selector.ofChoices config candidates).live actions
    (∀ index, s.highlighted = some index →
      ∃ inside : index < s.filtered.length, s.highlightedChoice? = some s.filtered[index]) ∧
      (s.filtered = [] → s.highlighted = none) ∧
      (config.autoHighlight = true → s.isOpen = true → s.filtered ≠ [] →
        s.highlighted.isSome = true) ∧
      ∀ theme index, (View.selectView s.snapshot theme).highlighted = some index →
        index < (View.selectView s.snapshot theme).rows.length := by
  intro s
  have fits : HighlightFits s := HighlightFits.live config candidates actions
  have settings : s.config = config :=
    (Selector.live_config _ actions).trans (Selector.refilter_config _)
  refine ⟨?_, ?_, ?_, ?_⟩
  · intro index highlighted
    have inside := fits.inside index highlighted
    refine ⟨inside, ?_⟩
    unfold Selector.highlightedChoice?
    rw [highlighted, Option.bind_some, List.getElem?_eq_getElem inside]
  · intro empty
    cases highlighted : s.highlighted with
    | none => rfl
    | some index =>
      have inside := fits.inside index highlighted
      rw [empty] at inside
      exact absurd inside (Nat.not_lt_zero index)
  · rw [← settings]
    exact fits.present
  · intro theme index shown
    -- a closed list shows neither rows nor highlight
    cases isOpen : s.isOpen with
    | false => simp [View.selectView, Selector.snapshot, isOpen] at shown
    | true =>
      have highlighted : s.highlighted = some index := by
        simpa [View.selectView, Selector.snapshot, isOpen] using shown
      have inside := fits.inside index highlighted
      simpa [View.selectView, Selector.snapshot, isOpen] using inside

/-- The last of two choices is highlighted and selected, which takes it off the list. -/
def lastChosen : List Action :=
  [.step (.operation (.press .up)), .step (.operation (.press .enter))]

/-- The highlight comes back into the list that has become shorter. -/
theorem highlight_addresses_a_row_clamped :
    let s := (Selector.ofChoices { multiple := true, excludeSelected := true }
      [.ofLabel "Apple", .ofLabel "Pear"]).live lastChosen
    s.filtered = [.ofLabel "Apple"] ∧ s.highlighted = some 0 ∧
      s.highlightedChoice? = some (.ofLabel "Apple") ∧
      0 < (View.selectView s.snapshot default).rows.length := by
  intro s
  have highlighted : s.highlighted = some 0 := by decide
  have shown : (View.selectView s.snapshot default).highlighted = some 0 := by decide
  obtain ⟨inside, -, -, rows⟩ := highlight_addresses_a_row
    { multiple := true, excludeSelected := true } [.ofLabel "Apple", .ofLabel "Pear"] lastChosen
  obtain ⟨_, choice⟩ := inside 0 highlighted
  exact ⟨by decide, highlighted, choice, rows default 0 shown⟩

end Picklist.Select
