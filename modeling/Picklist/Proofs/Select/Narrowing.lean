import Picklist.Proofs.Select.Batch
import Picklist.Proofs.Select.Containment
import Picklist.Proofs.Select.Eligible
import Picklist.Proofs.Text.Parts

/-!
# Typing more narrows the list

A query that is typed on contains the query before, and its normal form contains the normal form
before: trimming and folding keep parts of a text. Without a hook a text matches when it contains
the query up to case, so a text that matches the longer query matches the shorter one, and every
choice that is listed for the longer one is listed for the shorter one.
-/

set_option autoImplicit false

namespace Picklist.Select

open Unicode

/-! ## Containing a query -/

/-- Without a hook a text matches if and only if it contains the query up to case. -/
theorem Expression.matchesText_compile_iff (query : String) (cs : List Char) :
    (compile query none).matchesText cs = true ↔
      query.toList.map foldCase <:+: cs.map foldCase := by
  by_cases typed : query = ""
  · rw [typed]
    exact ⟨fun _ => List.nil_infix, fun _ => rfl⟩
  · rw [compile_none Pattern.ofText?_escape typed]
    show (Pattern.ofLiteral query.toList).matchesIn cs = true ↔ _
    rw [Pattern.matchesIn_ofLiteral_iff]
    constructor
    · rintro ⟨before, found, after, rfl, same⟩
      rw [List.map_append, List.map_append, same]
      exact ⟨_, _, rfl⟩
    · rintro ⟨before, after, split⟩
      obtain ⟨front, behind, rfl, rest, -⟩ := List.map_eq_append_iff.mp split.symm
      obtain ⟨start, found, rfl, -, same⟩ := List.map_eq_append_iff.mp rest
      exact ⟨start, found, behind, rfl, same⟩

section Narrowing

variable {config : Config} {selected : Selection} {choice : Choice} {short long : String}

/-- The normal form of a part is part of the normal form. -/
theorem Config.normalForm_mono (config : Config) (more : short.toList <:+: long.toList) :
    (config.normalForm short).toList <:+: (config.normalForm long).toList := by
  unfold normalForm Text.normalizeQueryString
  rw [String.toList_ofList, String.toList_ofList]
  exact Text.normalizeQuery_mono _ more

/-- The expression of a query without a hook. -/
abbrev Config.literal (config : Config) (query : String) : Expression :=
  Expression.compile (config.normalForm query) none

/-- A candidate for the longer query is one for the shorter query. -/
theorem Eligible.shorten (more : short.toList <:+: long.toList)
    (h : Eligible config (config.literal long) selected choice) :
    Eligible config (config.literal short) selected choice := by
  obtain ⟨text, among, found⟩ := h.found
  refine ⟨h.enabled, h.unselected, text, among, ?_⟩
  rw [Expression.matchesText_compile_iff] at found ⊢
  exact ((config.normalForm_mono more).map foldCase).trans found

/-- A candidate with a text that contains the query as it was typed is eligible. -/
theorem Eligible.of_contains (enabled : choice.disabled = false)
    (unselected : config.excludeSelected = true →
      ∀ other ∈ selected.choices, other.key ≠ choice.key)
    {text : String} (among : text ∈ choice.label :: choice.keywords)
    (contains : short.toList <:+: text.toList) :
    Eligible config (config.literal short) selected choice := by
  refine ⟨enabled, unselected, text, among, ?_⟩
  rw [Expression.matchesText_compile_iff]
  unfold Config.normalForm Text.normalizeQueryString
  rw [String.toList_ofList]
  exact (Text.normalizeQuery_isInfix _ contains).map foldCase

end Narrowing

/-! ## The list after typing -/

namespace Selector

/-- Searching goes on behind the list that typing a query leaves. -/
theorem setQuery_eq (s : Selector) (query : String) (now : Nat) :
    ∃ pendingSearch search, s.setQuery query now =
      { s.changeQuery query with pendingSearch, search } := by
  unfold setQuery
  dsimp only
  split
  · unfold issueDueSearch
    split <;> exact ⟨_, _, rfl⟩
  · exact ⟨_, _, rfl⟩

/-- Typing lists what the filter lists for the normal form, whether or not there is a provider. -/
theorem setQuery_filtered (s : Selector) (query : String) (now : Nat) :
    (s.setQuery query now).filtered =
      filter s.candidates (s.config.normalForm query) s.selected s.config s.hooks := by
  obtain ⟨_, _, typed⟩ := s.setQuery_eq query now
  rw [typed]
  exact s.changeQuery_filtered query

/-- Where nothing is hidden, cut off or changed, what is listed are the eligible candidates. -/
theorem setQuery_filtered_of_plain {s : Selector} (unhooked : s.hooks = {})
    (unlimited : s.config.resultLimit = none) (shown : s.config.hideBeforeSearch = false)
    (query : String) (now : Nat) :
    (s.setQuery query now).filtered =
      eligible s.config (s.config.literal query) s.selected s.candidates := by
  have shows : ¬ (s.config.normalForm query = "" ∧ s.config.hideBeforeSearch = true) := by
    simp [shown]
  rw [setQuery_filtered, filter, unhooked, filterWith_eq, if_neg shows]
  exact Config.cut_of_unlimited unlimited

/-- What is listed for a query does not depend on the query before. -/
theorem setQuery_setQuery_filtered (s : Selector) (query before : String) (now earlier : Nat) :
    ((s.setQuery before earlier).setQuery query now).filtered =
      (s.setQuery query now).filtered := by
  obtain ⟨_, _, typed⟩ := s.setQuery_eq before earlier
  rw [setQuery_filtered, setQuery_filtered, typed]
  simp [changeQuery]

end Selector

/-- **Typing more narrows the list.** Where there are no hooks, no bound on results and nothing is
hidden, a text that contains another one lists some of the choices that the other one lists, in the
same order, whether or not the other one was typed before. A text lists every enabled candidate that
is not excluded and has it in its label or a keyword just as it was typed. -/
theorem typing_more_narrows (s : Selector) (unhooked : s.hooks = {})
    (unlimited : s.config.resultLimit = none) (shown : s.config.hideBeforeSearch = false)
    (short : String) (now : Nat) :
    (∀ (long : String) (later : Nat), short.toList <:+: long.toList →
      (s.setQuery long later).filtered.Sublist (s.setQuery short now).filtered ∧
        ((s.setQuery short now).setQuery long later).filtered.Sublist
          (s.setQuery short now).filtered) ∧
    ∀ choice ∈ s.candidates, choice.disabled = false →
      (s.config.excludeSelected = true → ∀ other ∈ s.selected.choices, other.key ≠ choice.key) →
      (∃ text ∈ choice.label :: choice.keywords, short.toList <:+: text.toList) →
      choice ∈ (s.setQuery short now).filtered := by
  have listed := Selector.setQuery_filtered_of_plain unhooked unlimited shown
  refine ⟨fun long later more => ?_, fun choice among enabled unselected contained => ?_⟩
  · have fewer : (s.setQuery long later).filtered.Sublist (s.setQuery short now).filtered := by
      rw [listed, listed]
      apply List.monotone_filter_right
      intro choice admitted
      exact decide_eq_true ((of_decide_eq_true admitted).shorten more)
    refine ⟨fewer, ?_⟩
    rw [Selector.setQuery_setQuery_filtered]
    exact fewer
  · obtain ⟨text, own, contains⟩ := contained
    rw [listed]
    exact List.mem_filter.mpr
      ⟨among, decide_eq_true (Eligible.of_contains enabled unselected own contains)⟩

/-- Accents, case and white space of the query do not count, nor does the selected choice. -/
theorem typing_more_narrows_desserts :
    let s := (Selector.ofChoices { ignoreDiacritics := true, excludeSelected := true }
      [.ofLabel "Cr\u00e8me br\u00fbl\u00e9e", .ofLabel "Cream", .ofLabel "ice CREME",
        .ofLabel "cremes"]).withSelected [.ofLabel "cremes"]
    s.hooks = {} ∧ s.config.resultLimit = none ∧ s.config.hideBeforeSearch = false ∧
      " cr\u00e9M".toList <:+: " cr\u00e9Me B\u0301".toList ∧
      ((s.setQuery " cr\u00e9M" 0).filtered.map Choice.key =
        ["Cr\u00e8me br\u00fbl\u00e9e", "ice CREME"]) ∧
      (s.setQuery " cr\u00e9Me B\u0301" 1).filtered.map Choice.key =
        ["Cr\u00e8me br\u00fbl\u00e9e"] ∧
      (s.setQuery " cr\u00e9Me B\u0301" 1).filtered.Sublist (s.setQuery " cr\u00e9M" 0).filtered ∧
      Choice.ofLabel "ice CREME" ∈ (s.setQuery "ce C" 2).filtered := by
  intro s
  have more : " cr\u00e9M".toList <:+: " cr\u00e9Me B\u0301".toList := by decide +kernel
  have narrows := typing_more_narrows s rfl rfl rfl
  refine ⟨rfl, rfl, rfl, more, by decide +kernel, by decide +kernel,
    ((narrows _ 0).1 _ 1 more).1, (narrows _ 2).2 _ (by decide +kernel) rfl ?_ ?_⟩
  · decide +kernel
  · exact ⟨"ice CREME", List.mem_cons_self, by decide +kernel⟩

end Picklist.Select
