import Mathlib.Data.List.Nodup
import Picklist.Proofs.Select.Stroke

/-!
# The selection is what the events say

A caller who mirrors the selection has to know nothing but the events. A choice that is said to be
selected comes last, or replaces everything in a list for a single choice; one that is said to be
removed leaves. Replaying the events of a run over the selection before it gives the selection after
it, choice for choice and in order.

Every event fits the selection in which it is told, and this alone keeps the selection in shape: no
two choices have one key, and a list for a single choice selects one at the most.
-/

set_option autoImplicit false

namespace Picklist.Select

namespace Selection

variable {multiple : Bool} {s t u : Selection}

/-! ## Replaying events -/

/-- The selection of a caller who is told an event. -/
def replay (multiple : Bool) (s : Selection) : Event → Selection
  | .selected choice =>
    if multiple then { choices := s.choices ++ [choice] } else { choices := [choice] }
  | .removed choice => { choices := s.choices.filter (·.key != choice.key) }

/-- What an event takes for granted: an enabled choice is selected, with a new key where several
choices can be selected, and it is the stored choice that is removed. -/
def Fits (multiple : Bool) (s : Selection) : Event → Prop
  | .selected choice =>
    choice.disabled = false ∧ (multiple = true → s.contains choice.key = false)
  | .removed choice => s.find? choice.key = some choice

/-- Every event fits the selection that the events before it have led to. -/
def Accords (multiple : Bool) : Selection → List Event → Prop
  | _, [] => True
  | s, event :: rest => s.Fits multiple event ∧ (s.replay multiple event).Accords multiple rest

/-- Events accord with a selection if the first ones do and the others do after these. -/
theorem accords_append (s : Selection) (events more : List Event) :
    s.Accords multiple (events ++ more) ↔
      s.Accords multiple events ∧ (events.foldl (replay multiple) s).Accords multiple more := by
  induction events generalizing s with
  | nil => simp [Accords]
  | cons event rest ih =>
    simp only [List.cons_append, Accords, ih, List.foldl_cons, and_assoc]

/-! ## Lists with distinct keys -/

/-- Where no key comes twice a choice is found by its key. -/
theorem find?_key {choices : List Choice} (distinct : (choices.map Choice.key).Nodup)
    {choice : Choice} (member : choice ∈ choices) :
    choices.find? (·.key == choice.key) = some choice := by
  induction choices with
  | nil => cases member
  | cons first rest ih =>
    obtain ⟨new, others⟩ := List.nodup_cons.mp distinct
    by_cases same : first.key = choice.key
    · rw [List.find?_cons_of_pos (by simpa using same)]
      rcases List.mem_cons.mp member with rfl | later
      · rfl
      · rw [same] at new
        exact absurd (List.mem_map_of_mem later) new
    · rw [List.find?_cons_of_neg (by simpa using same)]
      rcases List.mem_cons.mp member with rfl | later
      · exact absurd rfl same
      · exact ih others later

/-- Since no other choice has the key, removing one choice removes all that have it. -/
theorem eraseP_key {choices : List Choice} (distinct : (choices.map Choice.key).Nodup)
    (key : String) : choices.eraseP (·.key == key) = choices.filter (·.key != key) := by
  induction choices with
  | nil => rfl
  | cons first rest ih =>
    obtain ⟨new, others⟩ := List.nodup_cons.mp distinct
    by_cases same : first.key = key
    · have kept : rest.filter (·.key != key) = rest := by
        rw [List.filter_eq_self]
        intro other later
        have apart : other.key ≠ key := by
          intro equal
          apply new
          rw [same, ← equal]
          exact List.mem_map_of_mem later
        simpa using apart
      rw [List.eraseP_cons_of_pos (by simpa using same), List.filter_cons_of_neg (by simp [same]),
        kept]
    · rw [List.eraseP_cons_of_neg (by simpa using same),
        List.filter_cons_of_pos (by simpa using same), ih others]

/-! ## Selections in shape -/

/-- No two choices have one key, and a list for a single choice has one at the most. -/
structure Proper (multiple : Bool) (s : Selection) : Prop where
  distinct : (s.choices.map Choice.key).Nodup
  single : multiple = false → s.choices.length ≤ 1

/-- A selection contains no choice with a key that none of its choices has. -/
theorem contains_eq_false {key : String} :
    s.contains key = false ↔ key ∉ s.choices.map Choice.key := by
  simp [contains]

namespace Proper

/-- The empty selection is proper. -/
theorem empty : Proper multiple {} := ⟨List.nodup_nil, fun _ => Nat.zero_le 1⟩

/-- A selection of one choice is proper. -/
theorem one (choice : Choice) : Proper multiple { choices := [choice] } :=
  ⟨List.nodup_singleton choice.key, fun _ => Nat.le_refl 1⟩

/-- A choice is found under its own key, and only there. -/
theorem find?_iff (h : s.Proper multiple) {key : String} {choice : Choice} :
    s.find? key = some choice ↔ choice ∈ s.choices ∧ choice.key = key := by
  constructor
  · intro found
    exact ⟨List.mem_of_find?_eq_some found, by simpa using List.find?_some found⟩
  · rintro ⟨member, rfl⟩
    exact find?_key h.distinct member

/-- Erasing a key takes out the choices that have it. -/
theorem erase_eq (h : s.Proper multiple) (key : String) :
    s.erase key = { choices := s.choices.filter (·.key != key) } := by
  unfold erase
  rw [eraseP_key h.distinct]

/-- Where several may be selected a choice with a new key can be added. -/
theorem append (h : s.Proper multiple) (several : multiple = true) {choice : Choice}
    (fresh : s.contains choice.key = false) : Proper multiple ⟨s.choices ++ [choice]⟩ where
  distinct := by
    rw [List.map_append, List.map_singleton]
    exact h.distinct.append (List.nodup_singleton _)
      (List.disjoint_singleton.mpr (contains_eq_false.mp fresh))
  single := by
    intro one
    rw [several] at one
    cases one

/-- Events that fit keep the selection in shape. -/
theorem replay (h : s.Proper multiple) {event : Event} (fits : s.Fits multiple event) :
    (s.replay multiple event).Proper multiple := by
  cases event with
  | selected choice =>
    show Proper multiple (if multiple then _ else _)
    split
    · rename_i several
      exact h.append several (fits.2 several)
    · exact one choice
  | removed choice =>
    have fewer : (s.choices.filter (·.key != choice.key)).Sublist s.choices :=
      List.filter_sublist
    exact ⟨h.distinct.sublist (fewer.map Choice.key),
      fun one => Nat.le_trans fewer.length_le (h.single one)⟩

/-- A selection stays proper through events that accord with it. -/
theorem replayAll (h : s.Proper multiple) {events : List Event}
    (accords : s.Accords multiple events) :
    (events.foldl (Selection.replay multiple) s).Proper multiple := by
  induction events generalizing s with
  | nil => exact h
  | cons event rest ih => exact ih (h.replay accords.1) accords.2

/-- A choice that is inserted without an event replaces the one that has its key. -/
theorem insert (h : s.Proper multiple) (several : multiple = true) (choice : Choice) :
    (s.insert choice).Proper multiple := by
  unfold Selection.insert
  split
  · have keys : (s.choices.map fun c => if c.key == choice.key then choice else c).map
        Choice.key = s.choices.map Choice.key := by
      rw [List.map_map]
      apply List.map_congr_left
      intro c _
      by_cases same : c.key = choice.key
      · simp [same]
      · simp [same]
    refine ⟨?_, ?_⟩
    · rw [keys]
      exact h.distinct
    · intro one
      simpa using h.single one
  · rename_i fresh
    exact h.append several (by simpa using fresh)

end Proper

/-- Disabled choices do not enter by events. -/
theorem mem_of_disabled {events : List Event} (accords : s.Accords multiple events)
    {choice : Choice} (member : choice ∈ (events.foldl (replay multiple) s).choices)
    (disabled : choice.disabled = true) : choice ∈ s.choices := by
  induction events generalizing s with
  | nil => exact member
  | cons event rest ih =>
    have before : choice ∈ (s.replay multiple event).choices := ih accords.2 member
    cases event with
    | removed other => exact List.mem_of_mem_filter before
    | selected other =>
      have enabled : choice ≠ other := by
        rintro rfl
        rw [accords.1.1] at disabled
        cases disabled
      unfold replay at before
      dsimp only at before
      split at before
      · rcases List.mem_append.mp before with old | new
        · exact old
        · exact absurd (List.mem_singleton.mp new) enabled
      · exact absurd (List.mem_singleton.mp before) enabled

/-- A selection has become another one just as the events say. -/
structure Follows (multiple : Bool) (s : Selection) (events : List Event) (t : Selection) :
    Prop where
  replayed : t = events.foldl (replay multiple) s
  accords : s.Accords multiple events

namespace Follows

variable {events more : List Event}

/-- A selection follows itself without events. -/
theorem same (s : Selection) : Follows multiple s [] s := ⟨rfl, trivial⟩

/-- A selection follows by one event that fits. -/
theorem event {event : Event} (fits : s.Fits multiple event)
    (replayed : t = s.replay multiple event) : Follows multiple s [event] t :=
  ⟨replayed, fits, trivial⟩

/-- Following by some events and then by others is following by all of them. -/
theorem trans (h : Follows multiple s events t) (k : Follows multiple t more u) :
    Follows multiple s (events ++ more) u where
  replayed := by rw [List.foldl_append, ← h.replayed, k.replayed]
  accords := by
    rw [accords_append, ← h.replayed]
    exact ⟨h.accords, k.accords⟩

/-- What follows a proper selection is proper. -/
theorem proper (h : Follows multiple s events t) (start : s.Proper multiple) :
    t.Proper multiple := by
  rw [h.replayed]
  exact start.replayAll h.accords

end Follows

end Selection

/-! ## Strokes -/

/-- The selection changes as the event of the stroke says. -/
theorem Stroke.follows {s t : Selector} {events : List Event} (stroke : Stroke s events t)
    (proper : s.selected.Proper s.config.multiple) :
    s.selected.Follows s.config.multiple events t.selected := by
  cases stroke with
  | relisted t _ selected =>
    rw [Selector.refilter_selected, selected]
    exact .same _
  | added choice enabled multiple fresh =>
    rw [Selector.refilter_selected]
    have fits : s.selected.Fits s.config.multiple (.selected choice) :=
      ⟨enabled, fun _ => fresh⟩
    apply Selection.Follows.event fits
    simp [Selection.insert, Selection.replay, fresh, multiple]
  | replaced choice enabled single =>
    rw [Selector.refilter_selected]
    have fits : s.selected.Fits s.config.multiple (.selected choice) := by
      refine ⟨enabled, ?_⟩
      intro several
      rw [single] at several
      cases several
    apply Selection.Follows.event fits
    simp [Selector.close, Selection.insert, Selection.contains, Selection.replay, single]
  | removed key choice stored =>
    rw [Selector.refilter_selected]
    obtain ⟨-, rfl⟩ := proper.find?_iff.mp stored
    exact Selection.Follows.event stored (proper.erase_eq choice.key)
  | opened =>
    obtain ⟨_, same⟩ := Selector.applyAutoHighlight_eq { s with isOpen := true }
    unfold Selector.openList
    rw [same]
    exact .same _
  | behind => exact .same _
  | closed => exact .same _
  | stepped => exact .same _
  | shown => exact .same _

/-- Strokes of a caller lead to the selection that their events lead to. -/
theorem Strokes.follows {s t : Selector} {events : List Event} (strokes : Strokes s events t)
    (proper : s.selected.Proper s.config.multiple) :
    s.selected.Follows s.config.multiple events t.selected := by
  have settled : t.config = s.config ∧ s.selected.Follows s.config.multiple events t.selected := by
    induction strokes with
    | refl => exact ⟨rfl, .same _⟩
    | tail _ last ih =>
      obtain ⟨same, follows⟩ := ih
      have next := last.follows (by rw [same]; exact follows.proper proper)
      rw [same] at next
      exact ⟨last.config.trans same, follows.trans next⟩
  exact settled.2

/-! ## Runs -/

namespace Selector

/-- Every action leads to the selection that its event leads to, unless it puts choices in
silently. -/
theorem act_follows {s : Selector} (proper : s.selected.Proper s.config.multiple)
    {action : Action} (unseeded : ¬ action.Seeds) :
    s.selected.Follows s.config.multiple (s.tells action).toList (s.act action).selected :=
  (s.strokes_act unseeded).follows proper

/-- Choices that are put in silently leave the selection proper. -/
theorem withSelected_proper {s : Selector} (proper : s.selected.Proper s.config.multiple)
    (choices : List Choice) :
    (s.withSelected choices).selected.Proper (s.withSelected choices).config.multiple := by
  unfold withSelected
  rw [refilter_selected, refilter_config]
  dsimp only
  generalize s.selected = selected at proper ⊢
  induction choices generalizing selected with
  | nil => exact proper
  | cons choice rest ih =>
    apply ih
    split
    · rename_i several
      exact proper.insert several choice
    · exact .one choice

/-- The selection is in shape for a whole life. -/
theorem live_proper {s : Selector} (proper : s.selected.Proper s.config.multiple)
    (actions : List Action) :
    (s.live actions).selected.Proper (s.live actions).config.multiple := by
  refine @live_induction (fun t => t.selected.Proper t.config.multiple) s proper ?_ actions
  intro t action proper
  by_cases seeds : action.Seeds
  · obtain ⟨choices, rfl⟩ := seeds
    exact withSelected_proper proper choices
  · rw [act_config]
    exact (act_follows proper seeds).proper proper

/-- Over a life the selection follows the events that were told. -/
theorem live_follows {s : Selector} (proper : s.selected.Proper s.config.multiple)
    {actions : List Action} (unseeded : ∀ action ∈ actions, ¬ action.Seeds) :
    s.selected.Follows s.config.multiple (s.story actions) (s.live actions).selected := by
  induction actions generalizing s with
  | nil => exact .same _
  | cons action rest ih =>
    obtain ⟨first, others⟩ := List.forall_mem_cons.mp unseeded
    have now := act_follows proper first
    have later := ih (by rw [act_config]; exact now.proper proper) others
    rw [act_config] at later
    exact now.trans later

/-- At the start the selection is proper. -/
theorem ofChoices_proper (config : Config) (candidates : List Choice) :
    (ofChoices config candidates).selected.Proper
      (ofChoices config candidates).config.multiple := by
  unfold ofChoices
  rw [refilter_selected]
  exact .empty

end Selector

/-- **The selection is what the events say.** After any actions on a new select list, and any later
ones that insert no choices without events: replaying the events told over the selection before
gives the selection after; each event fits the selection in which it is told; an action that tells
nothing leaves the selection alone; no two choices have one key, and each is found under its own; a
list for a single choice selects one at the most; and no disabled choice has entered. -/
theorem selection_follows_events (config : Config) (candidates : List Choice)
    (earlier later : List Action) (unseeded : ∀ action ∈ later, ¬ action.Seeds) :
    let s := (Selector.ofChoices config candidates).live earlier
    let t := s.live later
    t.selected = (s.story later).foldl (Selection.replay config.multiple) s.selected ∧
      s.selected.Accords config.multiple (s.story later) ∧
      (∀ action : Action, ¬ action.Seeds → t.tells action = none →
        (t.act action).selected = t.selected) ∧
      (t.selected.choices.map Choice.key).Nodup ∧
      (∀ key choice, t.selected.find? key = some choice ↔
        choice ∈ t.selected.choices ∧ choice.key = key) ∧
      (config.multiple = false → t.selected.choices.length ≤ 1) ∧
      ∀ choice ∈ t.selected.choices, choice.disabled = true → choice ∈ s.selected.choices := by
  intro s t
  have before : s.config = config :=
    (Selector.live_config _ earlier).trans (Selector.refilter_config _)
  have after : t.config = config := (Selector.live_config s later).trans before
  have proper : s.selected.Proper s.config.multiple :=
    Selector.live_proper (Selector.ofChoices_proper config candidates) earlier
  have follows : s.selected.Follows s.config.multiple (s.story later) t.selected :=
    Selector.live_follows proper unseeded
  have kept : t.selected.Proper t.config.multiple := Selector.live_proper proper later
  rw [before] at follows
  refine ⟨follows.replayed, follows.accords, ?_, kept.distinct, fun _ _ => kept.find?_iff, ?_, ?_⟩
  · intro action unseeded silent
    have next := Selector.act_follows kept unseeded
    rw [silent] at next
    exact next.replayed
  · rw [← after]
    exact kept.single
  · intro choice member disabled
    rw [follows.replayed] at member
    exact Selection.mem_of_disabled follows.accords member disabled

/-- A disabled choice is inserted without an event. -/
def seeded : List Action :=
  [.step (.operation (.withSelected [{ key := "fig", label := "Fig", disabled := true }]))]

/-- Two choices are selected, the last is taken back by a key, and the other is selected again. -/
def chosen : List Action :=
  [.step (.operation (.select (.ofLabel "Apple"))), .step (.operation (.select (.ofLabel "Pear"))),
    .step (.operation (.press .backspace)), .step (.operation (.select (.ofLabel "Apple")))]

/-- Selecting again what is selected tells nothing, and the disabled choice stays. -/
theorem selection_follows_events_chosen :
    let s := (Selector.ofChoices { multiple := true } [.ofLabel "Apple"]).live seeded
    (∀ action ∈ chosen, ¬ action.Seeds) ∧
      s.story chosen = [.selected (.ofLabel "Apple"), .selected (.ofLabel "Pear"),
        .removed (.ofLabel "Pear")] ∧
      (s.live chosen).selected.choices =
        [{ key := "fig", label := "Fig", disabled := true }, .ofLabel "Apple"] := by
  intro s
  have unseeded : ∀ action ∈ chosen, ¬ action.Seeds := by simp [chosen, Action.Seeds]
  have told : s.story chosen = [.selected (.ofLabel "Apple"), .selected (.ofLabel "Pear"),
      .removed (.ofLabel "Pear")] := by decide
  obtain ⟨replayed, -⟩ := selection_follows_events { multiple := true } [.ofLabel "Apple"] seeded
    chosen unseeded
  refine ⟨unseeded, told, ?_⟩
  rw [replayed, told]
  decide

end Picklist.Select
