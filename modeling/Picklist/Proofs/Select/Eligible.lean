import Picklist.Select.Filter

/-!
# The list is the first eligible candidates

The candidates are read one by one, and reading stops when the list is full. What comes out is what
a reader of the settings expects: the eligible candidates, cut off at the bound on results. Only
choices that were kept count towards the bound, so passing over others never costs a place.
-/

set_option autoImplicit false

namespace Picklist.Select

/-! ## Taking what satisfies a test -/

section TakeWhere

variable {α : Type} (test : α → Bool)

/-- Without a limit all that pass the test are taken. -/
theorem takeWhere_none (as : List α) : takeWhere test none as = as.filter test := by
  induction as with
  | nil => rfl
  | cons a rest ih =>
    have unbounded : ¬ (none : Option Nat) = some 0 := by simp
    rw [takeWhere, if_neg unbounded, Option.map_none, ih, List.filter_cons]

/-- Stopping after a number of elements is cutting off all that satisfy the test. -/
theorem takeWhere_some (limit : Nat) (as : List α) :
    takeWhere test (some limit) as = (as.filter test).take limit := by
  induction as generalizing limit with
  | nil => simp [takeWhere]
  | cons a rest ih =>
    unfold takeWhere
    cases limit with
    | zero => simp
    | succ limit =>
      have room : ¬ some (limit + 1) = some 0 := by simp
      rw [if_neg room, List.filter_cons]
      by_cases kept : test a = true
      · -- only an element that is kept uses up a place
        rw [if_pos kept, if_pos kept, List.take_succ_cons, Option.map_some, Nat.add_sub_cancel, ih]
      · rw [if_neg kept, if_neg kept, ih]

end TakeWhere

/-! ## Eligible candidates -/

/-- A candidate that may be listed: it is enabled, it has not been selected where the selected ones
are excluded, and the expression matches its label or a keyword after normalization. -/
structure Eligible (config : Config) (e : Expression) (selected : Selection) (choice : Choice) :
    Prop where
  enabled : choice.disabled = false
  unselected : config.excludeSelected = true → ∀ other ∈ selected.choices, other.key ≠ choice.key
  found : ∃ text ∈ choice.label :: choice.keywords,
    e.matchesText (Text.normalize config.ignoreDiacritics text.toList) = true

section Eligible

variable {config : Config} {e : Expression} {selected : Selection} {choice : Choice}

/-- A choice matches if its label or a keyword does, after normalization. -/
theorem Expression.matchesChoice_iff {fold : Bool} :
    e.matchesChoice fold choice = true ↔
      ∃ text ∈ choice.label :: choice.keywords,
        e.matchesText (Text.normalize fold text.toList) = true := by
  unfold matchesChoice Choice.texts
  rw [Bool.or_eq_true, List.any_eq_true]
  constructor
  · rintro (unconstrained | found)
    · -- without a constraint the label matches already
      have none : e.pattern = none := Option.isNone_iff_eq_none.mp unconstrained
      exact ⟨choice.label, List.mem_cons_self, by simp [matchesText, none]⟩
    · exact found
  · exact .inr

/-- A candidate is listed if and only if it is eligible. -/
theorem isListed_iff :
    isListed config e selected choice = true ↔ Eligible config e selected choice := by
  unfold isListed
  rw [Bool.and_eq_true, Bool.and_eq_true, Bool.not_eq_true', Bool.not_eq_true',
    Expression.matchesChoice_iff, Bool.and_eq_false_iff]
  have absent : selected.contains choice.key = false ↔
      ∀ other ∈ selected.choices, other.key ≠ choice.key := by simp [Selection.contains]
  rw [absent]
  constructor
  · rintro ⟨⟨enabled, unselected⟩, found⟩
    refine ⟨enabled, ?_, found⟩
    intro excluded
    rcases unselected with kept | unselected
    · rw [excluded] at kept
      cases kept
    · exact unselected
  · rintro ⟨enabled, unselected, found⟩
    refine ⟨⟨enabled, ?_⟩, found⟩
    cases excluded : config.excludeSelected with
    | false => exact .inl rfl
    | true => exact .inr (unselected excluded)

/-- Whether a candidate is eligible can be decided. -/
instance : Decidable (Eligible config e selected choice) :=
  decidable_of_iff _ isListed_iff

end Eligible

/-- The eligible ones among the candidates, in their order. -/
def eligible (config : Config) (e : Expression) (selected : Selection)
    (candidates : List Choice) : List Choice :=
  candidates.filter (Eligible config e selected ·)

/-- As many choices as the settings allow at most; none and zero allow all. -/
def Config.cut (config : Config) (choices : List Choice) : List Choice :=
  match config.maxResults with
  | none | some 0 => choices
  | some bound => choices.take bound

section Filter

variable (candidates : List Choice) (query : String) (e : Expression) (selected : Selection)
  (config : Config) (hooks : Hooks)

/-- The listed candidates are the eligible ones, cut to the bound. -/
theorem takeWhere_isListed :
    takeWhere (isListed config e selected) config.resultLimit candidates =
      config.cut (eligible config e selected candidates) := by
  have same : candidates.filter (isListed config e selected) =
      eligible config e selected candidates := by
    apply List.filter_congr
    intro choice _
    rw [Bool.eq_iff_iff, isListed_iff, decide_eq_true_iff]
  unfold Config.cut Config.resultLimit
  rw [← same]
  match config.maxResults with
  | none => exact takeWhere_none _ _
  | some 0 => exact takeWhere_none _ _
  | some (bound + 1) => exact takeWhere_some _ _ _

/-- The list is empty where it is hidden. Otherwise it is the first eligible candidates, or what the
hook makes of them. -/
theorem filterWith_eq :
    filterWith candidates query e selected config hooks =
      if query = "" ∧ config.hideBeforeSearch = true then []
      else
        match hooks.results with
        | some change => change (config.cut (eligible config e selected candidates)) query
        | none => config.cut (eligible config e selected candidates) := by
  have hidden : (query.isEmpty && config.hideBeforeSearch) = true ↔
      query = "" ∧ config.hideBeforeSearch = true := by
    rw [Bool.and_eq_true, String.isEmpty_iff]
  unfold filterWith
  rw [takeWhere_isListed]
  by_cases hides : query = "" ∧ config.hideBeforeSearch = true
  · rw [if_pos hides, if_pos (hidden.mpr hides)]
  · rw [if_neg hides]
    exact if_neg (mt hidden.mp hides)

end Filter

/-! ## Bounds on results -/

section Bounds

variable {config : Config} {choices : List Choice}

/-- A bound of at least one cuts to as many choices. -/
theorem Config.cut_of_bound {bound : Nat} (limited : config.maxResults = some bound)
    (positive : 0 < bound) : config.cut choices = choices.take bound := by
  obtain ⟨less, rfl⟩ : ∃ less, bound = less + 1 := ⟨bound - 1, by omega⟩
  unfold cut
  rw [limited]
  rfl

/-- Without a bound nothing is cut. -/
theorem Config.cut_of_unlimited (unlimited : config.resultLimit = none) :
    config.cut choices = choices := by
  unfold resultLimit at unlimited
  unfold cut
  split
  · rfl
  · rfl
  · rename_i bound positive limited
    have positive : 0 < bound := Nat.pos_of_ne_zero positive
    rw [limited, Option.filter_some, if_pos (by simpa using positive)] at unlimited
    cases unlimited

/-- Cutting leaves the first choices. -/
theorem Config.cut_prefix : config.cut choices <+: choices := by
  unfold cut
  split
  · exact List.prefix_rfl
  · exact List.prefix_rfl
  · exact List.take_prefix _ _

/-- A list that is not full has not been cut. -/
theorem Config.cut_of_room
    (room : ∀ bound, config.maxResults = some bound → 0 < bound →
      (config.cut choices).length < bound) :
    config.cut choices = choices := by
  cases limited : config.maxResults with
  | none => exact cut_of_unlimited (by simp [resultLimit, limited])
  | some bound =>
    rcases Nat.eq_zero_or_pos bound with rfl | positive
    · exact cut_of_unlimited (by simp [resultLimit, limited])
    · have short := room bound limited positive
      rw [cut_of_bound limited positive] at short ⊢
      rw [List.length_take] at short
      exact List.take_of_length_le (by omega)

end Bounds

section Filter

variable {candidates : List Choice} {query : String} {e : Expression} {selected : Selection}
  {config : Config} {hooks : Hooks}

/-- The bound on results decides on nobody. -/
theorem eligible_bounded (bound : Option Nat) :
    eligible { config with maxResults := bound } e selected candidates =
      eligible config e selected candidates := by
  apply List.filter_congr
  intro choice _
  rw [Bool.eq_iff_iff, decide_eq_true_iff, decide_eq_true_iff, ← isListed_iff, ← isListed_iff]
  rfl

/-- A higher bound, or none, adds choices at the end. -/
theorem filterWith_prefix (unchanged : hooks.results = none) {lower : Nat} (positive : 0 < lower)
    {bound : Option Nat} (above : ∀ n, bound = some n → lower ≤ n) :
    filterWith candidates query e selected { config with maxResults := some lower } hooks <+:
      filterWith candidates query e selected { config with maxResults := bound } hooks := by
  simp only [filterWith_eq, unchanged, eligible_bounded]
  split
  · exact List.prefix_rfl
  · have first (config : Config) {n : Nat} (positive : 0 < n) :
        Config.cut { config with maxResults := some n } (eligible config e selected candidates) =
          (eligible config e selected candidates).take n := Config.cut_of_bound rfl positive
    rw [first config positive]
    cases bound with
    | none => exact List.take_prefix _ _
    | some n =>
      have higher := above n rfl
      rw [first config (Nat.lt_of_lt_of_le positive higher)]
      exact List.take_prefix_take_left higher

/-- An eligible candidate is listed as often as it is a candidate, and no other is. -/
theorem count_eligible (choice : Choice) :
    (eligible config e selected candidates).count choice =
      if Eligible config e selected choice then candidates.count choice else 0 := by
  by_cases admitted : Eligible config e selected choice
  · rw [if_pos admitted]
    exact List.count_filter (decide_eq_true admitted)
  · rw [if_neg admitted, List.count_eq_zero]
    intro member
    exact admitted (of_decide_eq_true (List.mem_filter.mp member).2)

end Filter

/-- **The list is the first eligible candidates.** Where it is hidden before a search an empty query
lists nothing, whatever the hooks. Otherwise the eligible candidates, in their order and cut off at
the bound on results, are what the hook changes, or the list itself. So without a hook the list
keeps the order of the candidates, a higher bound adds choices at the end, and as long as the list
is not full it has every eligible candidate as often as there are of it. -/
theorem filter_lists_first_eligible (candidates : List Choice) (query : String) (e : Expression)
    (selected : Selection) (config : Config) (hooks : Hooks) :
    let listed := filterWith candidates query e selected config hooks
    let bounded := fun bound : Option Nat =>
      filterWith candidates query e selected { config with maxResults := bound } hooks
    let first := config.cut (eligible config e selected candidates)
    (query = "" ∧ config.hideBeforeSearch = true → listed = []) ∧
    (¬ (query = "" ∧ config.hideBeforeSearch = true) →
      (∀ change, hooks.results = some change → listed = change first query) ∧
      (hooks.results = none → listed = first ∧
        ((∀ bound, config.maxResults = some bound → 0 < bound → listed.length < bound) →
          ∀ choice, listed.count choice =
            if Eligible config e selected choice then candidates.count choice else 0))) ∧
    (hooks.results = none →
      listed.Sublist candidates ∧
      ∀ lower, 0 < lower → bounded (some lower) <+: bounded none ∧
        ∀ bound, lower ≤ bound → bounded (some lower) <+: bounded (some bound)) := by
  intro listed bounded first
  have rule : listed = if query = "" ∧ config.hideBeforeSearch = true then [] else
      match hooks.results with
      | some change => change first query
      | none => first := filterWith_eq candidates query e selected config hooks
  refine ⟨?hidden, ?shown, ?unchanged⟩
  case hidden =>
    intro hides
    rw [rule, if_pos hides]
  case shown =>
    intro shows
    rw [if_neg shows] at rule
    refine ⟨fun change given => ?_, fun unchanged => ?_⟩
    · rw [rule, given]
    · rw [unchanged] at rule
      refine ⟨rule, fun room choice => ?_⟩
      rw [rule] at room ⊢
      rw [show first = eligible config e selected candidates from Config.cut_of_room room]
      exact count_eligible choice
  case unchanged =>
    intro unchanged
    rw [unchanged] at rule
    refine ⟨?_, fun lower positive => ⟨?_, fun bound above => ?_⟩⟩
    · rw [rule]
      split
      · exact List.nil_sublist _
      · exact Config.cut_prefix.sublist.trans List.filter_sublist
    · exact filterWith_prefix unchanged positive (by simp)
    · exact filterWith_prefix unchanged positive (by simpa using above)

/-- Of five candidates one is disabled, one is selected and one does not match. -/
def figs : List Choice :=
  [{ key := "old", label := "Fig", disabled := true }, .ofLabel "Fig jam", .ofLabel "Kiwi",
    .ofLabel "Fig tart", { key := "Ficus", label := "Ficus", keywords := ["fig"] }]

/-- The bound is reached by those that are kept, and lifting it adds the last one. -/
theorem filter_lists_first_eligible_figs :
    let config : Config := { excludeSelected := true, maxResults := some 1 }
    let selected : Selection := { choices := [.ofLabel "Fig jam"] }
    let e := Expression.compile "fig" none
    let bounded := fun bound : Option Nat =>
      filterWith figs "fig" e selected { config with maxResults := bound } {}
    ¬ ("fig" = "" ∧ config.hideBeforeSearch = true) ∧
      filterWith figs "fig" e selected config {} = [.ofLabel "Fig tart"] ∧
      (bounded none).map Choice.key = ["Fig tart", "Ficus"] ∧
      bounded (some 1) <+: bounded none := by
  intro config selected e bounded
  obtain ⟨-, shown, unchanged⟩ := filter_lists_first_eligible figs "fig" e selected config {}
  have shows : ¬ ("fig" = "" ∧ config.hideBeforeSearch = true) := by decide
  obtain ⟨listed, -⟩ := (shown shows).2 rfl
  refine ⟨shows, ?_, by decide +kernel, ((unchanged rfl).2 1 (by decide)).1⟩
  rw [listed]
  decide +kernel

end Picklist.Select
