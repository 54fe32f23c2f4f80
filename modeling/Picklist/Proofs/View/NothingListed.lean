import Picklist.Proofs.Select.Coherence
import Picklist.Proofs.Select.Stroke
import Picklist.Proofs.Text.MarksAlone
import Picklist.View.SelectView

/-!
# What is said when nothing is listed

An open list without results shows a message in place of its rows, and its announcement is read out.
Both depend on whether there is a query, but the message looks at the query as it was typed and the
announcement at its normal form. Folding drops marks. So both say the same unless folding is on and
there is nothing but marks in the query: then the message says that there are no results, and
nothing is announced.
-/

set_option autoImplicit false

namespace Picklist.View

open Select Text

section

variable {s : Selector}

/-- An open list without results announces that if the normal form of the query is not empty. -/
theorem announcement_of_empty (isOpen : s.isOpen = true) (nothing : s.filtered = []) :
    s.announcement = if s.normalizedQuery.isEmpty then none else some .noResults := by
  simp [Selector.announcement, isOpen, nothing]

/-- An open list that is not searching has a message about the query as it was typed. -/
theorem emptyMessage_of_settled (isOpen : s.isOpen = true) (settled : s.isSearching = false) :
    emptyMessage s.snapshot =
      if (Unicode.trim s.query.toList).isEmpty then .noQuery else .noResults := by
  simp [emptyMessage, Selector.snapshot, isOpen, settled]

/-- The normal form is empty if the query is blank, and with folding also if it holds marks
alone. -/
theorem normalizedQuery_isEmpty_iff (prepared : Prepared s) :
    s.normalizedQuery.isEmpty = true ↔ Unicode.trim s.query.toList = [] ∨
      (s.config.ignoreDiacritics = true ∧ MarksAlone s.query.toList) := by
  rw [prepared.normalized, normalizeQueryString, String.isEmpty_iff, String.ofList_eq_empty_iff]
  exact normalizeQuery_eq_nil_iff

end

/-- **The message and the announcement agree but for queries of marks alone.** After any actions of
caller and worker on a new select list, let the list be open, without results and without a search
under way. Then the message says that there are no results or that there is no query, and if the
announcement says anything, it says that there are no results, as the message does then. The message
says it without the announcement if and only if folding is on and there is nothing but marks in the
query. -/
theorem messages_agree_but_for_marks (config : Config) (candidates : List Choice)
    (actions : List Action) (theme : Theme) :
    let s := (Selector.ofChoices config candidates).live actions
    let message := (selectView s.snapshot theme).emptyMessage
    s.isOpen = true → s.filtered = [] → s.isSearching = false →
      (message = .noResults ∨ message = .noQuery) ∧
      (s.announcement = some .noResults ∨ s.announcement = none) ∧
      (s.announcement = some .noResults → message = .noResults) ∧
      ((message = .noResults ↔ s.announcement = some .noResults) ↔
        ¬ (config.ignoreDiacritics = true ∧ MarksAlone s.query.toList)) := by
  intro s message isOpen nothing settled
  have coherent : Coherent s := Coherent.live config candidates actions
  have settings : s.config = config :=
    (Selector.live_config _ actions).trans (Selector.refilter_config _)
  have normal := normalizedQuery_isEmpty_iff coherent.toPrepared
  have shown : message = if (Unicode.trim s.query.toList).isEmpty then .noQuery else .noResults :=
    emptyMessage_of_settled isOpen settled
  have told := announcement_of_empty isOpen nothing
  rw [settings] at normal
  rw [shown, told]
  -- a query of marks alone is not blank, so the three cases exclude each other
  by_cases blank : Unicode.trim s.query.toList = []
  · have noMarks : ¬ MarksAlone s.query.toList := fun marks => marks.1 blank
    simp [blank, normal.mpr (.inl blank), noMarks]
  · by_cases marks : config.ignoreDiacritics = true ∧ MarksAlone s.query.toList
    · simp [blank, normal.mpr (.inr marks), marks]
    · have visible : s.normalizedQuery.isEmpty = false :=
        Bool.eq_false_iff.mpr fun empty => (normal.mp empty).elim blank marks
      simp [blank, visible, marks]

/-- An accented letter is more than a mark: the message and the announcement agree. -/
theorem messages_agree_but_for_marks_accented :
    let s := (Selector.ofChoices { ignoreDiacritics := true } [.ofLabel "Apple"]).live
      [.step (.operation (.setQuery "q\u0301" 0))]
    (selectView s.snapshot Theme.defaultTheme).emptyMessage = .noResults ∧
      s.announcement = some .noResults := by
  intro s
  obtain ⟨-, -, -, agree⟩ := messages_agree_but_for_marks { ignoreDiacritics := true }
    [.ofLabel "Apple"] [.step (.operation (.setQuery "q\u0301" 0))] Theme.defaultTheme
    (by decide +kernel) (by decide +kernel) (by decide +kernel)
  have told : s.announcement = some .noResults := by decide +kernel
  exact ⟨(agree.mpr (by decide +kernel)).mpr told, told⟩

/-- For a mark alone the message says that there are no results, and nothing is announced. -/
theorem mark_alone_is_not_announced :
    let s := (Selector.ofChoices { ignoreDiacritics := true, hideBeforeSearch := true }
      [.ofLabel "Apple"]).live [.step (.operation (.setQuery "\u0301" 0))]
    s.isOpen = true ∧ s.filtered = [] ∧ s.isSearching = false ∧
      (selectView s.snapshot Theme.defaultTheme).emptyMessage = .noResults ∧
      s.announcement = none := by
  decide +kernel

end Picklist.View
