import Picklist.Proofs.Select.Coherence
import Picklist.Proofs.Select.Eligible
import Picklist.Proofs.Select.Highlight
import Picklist.Proofs.Select.Replay
import Picklist.Proofs.Session.Typing

/-!
# What enter does

Enter looks at the highlighted choice first. Where there is none it ends the session with what has
been selected. Otherwise it has to do its work by way of the select list, which would refuse a
disabled choice and pay no attention to enter while it is closed. Neither ever happens in a session:
a closed list has no highlight, and the filter lists no disabled choice.

A session reaches into its select list in a few ways only, and each is an action of the list. So
what holds of a select list for its whole life holds in a session, and it remains to see that these
few actions never highlight anything in a closed list.
-/

set_option autoImplicit false

namespace Picklist.Select

/-! ## Closed lists have no highlight -/

/-- No hook changes the results, and a closed list highlights nothing. -/
structure Pickable (s : Selector) : Prop where
  unhooked : s.hooks.results = none
  bare : s.isOpen = false → s.highlighted = none

namespace Pickable

variable {s t : Selector}

/-- The hooks, the highlight and whether the list is open are all that counts. -/
theorem congr (h : Pickable s) (hooks : t.hooks = s.hooks)
    (highlighted : t.highlighted = s.highlighted) (isOpen : t.isOpen = s.isOpen) : Pickable t := by
  refine ⟨hooks ▸ h.unhooked, ?_⟩
  intro closed
  rw [highlighted]
  exact h.bare (isOpen.symm.trans closed)

/-- An open list may highlight what it likes. -/
theorem opened (unhooked : s.hooks.results = none) (isOpen : s.isOpen = true) : Pickable s where
  unhooked := unhooked
  bare := fun closed => by
    rw [isOpen] at closed
    cases closed

/-- Only in an open list the first result is highlighted by itself. -/
theorem applyAutoHighlight (h : Pickable s) : Pickable s.applyAutoHighlight := by
  rw [Selector.applyAutoHighlight_highlighted]
  refine ⟨h.unhooked, ?_⟩
  intro closed
  simp [show s.isOpen = false from closed, h.bare closed]

/-- Listing anew highlights nothing in a closed list. -/
theorem refilter (h : Pickable s) : Pickable s.refilter := by
  unfold Selector.refilter Selector.clampHighlight
  apply applyAutoHighlight
  refine ⟨h.unhooked, ?_⟩
  intro closed
  simp [h.bare closed]

/-- An open list may have a highlight. -/
theorem openList (unhooked : s.hooks.results = none) : Pickable s.openList :=
  applyAutoHighlight (opened unhooked rfl)

/-- Closing the list drops the highlight. -/
theorem close (h : Pickable s) : Pickable s.close := ⟨h.unhooked, fun _ => rfl⟩

/-- Selecting a choice highlights nothing in a closed list. -/
theorem select (h : Pickable s) (choice : Choice) : Pickable (s.select choice).2 := by
  unfold Selector.select
  split
  · exact h
  · split
    · split
      · exact h
      · exact refilter (h.congr rfl rfl rfl)
    · split
      · exact h.close
      · exact refilter (h.close.congr rfl rfl rfl)

/-- Removing a choice highlights nothing in a closed list. -/
theorem remove (h : Pickable s) (key : String) : Pickable (s.remove key).2 := by
  unfold Selector.remove
  split
  · exact refilter (h.congr rfl rfl rfl)
  · exact h

/-- An arrow opens the list before it highlights anything. -/
theorem arrow (h : Pickable s) (direction : Direction) : Pickable (s.arrow direction) := by
  unfold Selector.arrow
  split
  · rename_i isOpen
    exact opened h.unhooked isOpen
  · dsimp only
    split <;> exact opened h.unhooked rfl

/-- Keys highlight nothing in a closed list. -/
theorem handleKey (h : Pickable s) (key : Key) : Pickable (s.handleKey key).2 := by
  unfold Selector.handleKey
  cases key with
  | up => exact h.arrow .backward
  | down => exact h.arrow .forward
  | enter =>
    dsimp only
    split
    · unfold Selector.commitHighlighted
      split
      · exact h.select _
      · exact h
    · exact h
  | escape => exact h.close
  | tab => exact h.close
  | backspace =>
    dsimp only
    split
    · split
      · exact h.remove _
      · exact h
    · exact h

/-- Handing on highlights nothing in a closed list. -/
theorem issueDueSearch (h : Pickable s) (now : Nat) : Pickable (s.issueDueSearch now) := by
  unfold Selector.issueDueSearch
  split <;> exact h.congr rfl rfl rfl

/-- Typing opens the list. -/
theorem setQuery (h : Pickable s) (query : String) (now : Nat) :
    Pickable (s.setQuery query now) := by
  have changed : Pickable (s.changeQuery query) := refilter (opened h.unhooked rfl)
  unfold Selector.setQuery
  dsimp only
  split
  · have scheduled : Pickable ((s.changeQuery query).scheduleSearch now) :=
      changed.congr rfl rfl rfl
    exact scheduled.issueDueSearch now
  · exact changed

/-- Answers highlight nothing in a closed list. -/
theorem handleResponse (h : Pickable s) (response : Response) :
    Pickable (s.handleResponse response).2 := by
  unfold Selector.handleResponse
  split
  · exact h
  · split
    · dsimp only
      split
      · exact refilter (h.congr rfl rfl rfl)
      · exact h.congr rfl rfl rfl
    · exact h

/-- A turn of a pump highlights nothing in a closed list. -/
theorem readResponse (h : Pickable s) : Pickable s.readResponse.2 := by
  have behind (search : Option Exchange) : Pickable { s with search } := h.congr rfl rfl rfl
  unfold Selector.readResponse
  split
  · exact h
  · split
    · exact (behind _).handleResponse _
    · exact behind _

/-- Turns of a pump highlight nothing in a closed list. -/
theorem readResponses (h : Pickable s) (turns : Nat) : Pickable (s.readResponses turns).2 := by
  induction turns generalizing s with
  | zero => exact h
  | succ turns ih => exact ih h.readResponse

end Pickable

/-! ## What a session does with its select list -/

/-- The actions by which a session reaches into its select list. -/
inductive Action.OfPicking : Action → Prop where
  | press (key : Key) : OfPicking (.step (.operation (.press key)))
  | remove (key : String) : OfPicking (.step (.operation (.remove key)))
  | setQuery (query : String) (now : Nat) : OfPicking (.step (.operation (.setQuery query now)))
  | tick (now : Nat) : OfPicking (.step (.operation (.tick now)))
  | work (move : WorkerMove) : OfPicking (.step (.worker move))

namespace Pickable

variable {s : Selector}

/-- No action of a picking session highlights anything in a closed list. -/
theorem act (h : Pickable s) {action : Action} (picking : action.OfPicking) :
    Pickable (s.act action) := by
  cases picking with
  | press key => exact h.handleKey key
  | remove key => exact h.remove key
  | setQuery query now => exact h.setQuery query now
  | tick now => exact (h.issueDueSearch now).readResponses _
  | work move => exact h.congr rfl rfl rfl

/-- In a whole session nothing is highlighted in a closed list. -/
theorem live (h : Pickable s) {actions : List Action}
    (picking : ∀ action ∈ actions, action.OfPicking) : Pickable (s.live actions) := by
  induction actions generalizing s with
  | nil => exact h
  | cons action rest ih =>
    obtain ⟨first, others⟩ := List.forall_mem_cons.mp picking
    exact ih (h.act first) others

end Pickable

/-! ## Enter in a select list -/

/-- A highlighted choice that enter can do its work on. -/
structure Offered (s : Selector) (choice : Choice) : Prop where
  highlighted : s.highlightedChoice? = some choice
  isOpen : s.isOpen = true
  enabled : choice.disabled = false

namespace Offered

variable {s : Selector} {choice : Choice}

/-- Where a choice is offered the enter key selects it. -/
theorem handleKey_enter (h : Offered s choice) : s.handleKey .enter = s.select choice := by
  unfold Selector.handleKey Selector.commitHighlighted
  dsimp only
  rw [if_pos h.isOpen, h.highlighted]

/-- In a list for a single choice enter leaves one selected choice, which has the key of the
highlighted one. Choosing again leaves the choice that was stored under this key. -/
theorem enter_single (h : Offered s choice) (single : s.config.multiple = false) :
    ∃ chosen, chosen.key = choice.key ∧ (s.handleKey .enter).2.selected = ⟨[chosen]⟩ := by
  rw [h.handleKey_enter]
  unfold Selector.select
  rw [if_neg (by simp [h.enabled]), if_neg (by simp [single])]
  split
  · -- the list closes, and what was stored under the key need not be the highlighted choice
    rename_i again
    obtain ⟨chosen, only⟩ := List.length_eq_one_iff.mp again.1
    have stored := again.2
    unfold Selection.contains at stored
    rw [only] at stored
    refine ⟨chosen, by simpa using stored, ?_⟩
    show s.selected = ⟨[chosen]⟩
    rw [← only]
  · exact ⟨choice, rfl, Selector.refilter_selected _⟩

/-- In a list for several choices enter selects what has not been selected. -/
theorem enter_fresh (h : Offered s choice) (several : s.config.multiple = true)
    (fresh : s.selected.contains choice.key = false) :
    (s.handleKey .enter).2 =
      { s with selected := ⟨s.selected.choices ++ [choice]⟩ : Selector }.refilter := by
  rw [h.handleKey_enter]
  unfold Selector.select Selection.insert
  simp [h.enabled, several, fresh]

end Offered

/-- A removed choice leaves, and the others keep their order. -/
theorem Selection.Proper.remove_eq {s : Selector}
    (proper : s.selected.Proper s.config.multiple) {key : String}
    (stored : s.selected.contains key = true) :
    (s.remove key).2 =
      { s with selected := ⟨s.selected.choices.filter (·.key != key)⟩ : Selector }.refilter := by
  unfold Selector.remove
  cases found : s.selected.find? key with
  | some choice => rw [proper.erase_eq]
  | none =>
    obtain ⟨choice, among, same⟩ := List.any_eq_true.mp stored
    exact absurd same (List.find?_eq_none.mp found choice among)

/-- What is highlighted can be chosen where the highlight is right and no hook lists a disabled
choice. -/
theorem Pickable.offered {s : Selector} (pickable : Pickable s) (coherent : Coherent s)
    (fits : HighlightFits s) {index : Nat} (highlighted : s.highlighted = some index) :
    ∃ choice, s.filtered[index]? = some choice ∧ Offered s choice := by
  have inside := fits.inside index highlighted
  have here : s.filtered[index]? = some s.filtered[index] := List.getElem?_eq_getElem inside
  refine ⟨s.filtered[index], here, ?_, ?_, ?_⟩
  · unfold Selector.highlightedChoice?
    rw [highlighted, Option.bind_some, here]
  · by_contra closed
    rw [Bool.not_eq_true] at closed
    rw [pickable.bare closed] at highlighted
    cases highlighted
  · have member : s.filtered[index] ∈ s.filtered := List.getElem_mem inside
    generalize s.filtered[index] = choice at member
    rw [coherent.listed, filter, filterWith_eq, pickable.unhooked] at member
    split at member
    · cases member
    · have admitted := List.of_mem_filter (Config.cut_prefix.subset member)
      exact (of_decide_eq_true admitted).enabled

end Picklist.Select

namespace Picklist.Session.Picking

open Select (Selector Action Coherent HighlightFits Pickable Offered Selection)

variable {p : Picking}

/-! ## What a session reaches -/

/-- The session after a number of events, also of such as reach it when it has ended. -/
def drive (p : Picking) (events : List PickEvent) : Picking :=
  events.foldl (fun q event => (q.perform event).2) p

/-- The select list of a session is the same or has made one of a session's actions. -/
inductive Acted (p q : Picking) : Prop where
  | same (selector : q.selector = p.selector)
  | acted (action : Action) (picking : action.OfPicking)
    (selector : q.selector = p.selector.act action)

/-- Enter acts on the select list by one action of a picking session at the most. -/
theorem acted_enter (p : Picking) : Acted p p.enter.2 := by
  unfold enter
  split
  · exact .same rfl
  · split
    · exact .acted _ (.press .enter) rfl
    · split
      · exact .acted _ (.remove _) rfl
      · exact .acted _ (.press .enter) rfl

/-- Typing acts on the select list by one action of a picking session at the most. -/
theorem acted_edit (p : Picking) (key : Input.Key) (now : Nat) : Acted p (p.edit key now) := by
  unfold edit
  split
  · exact .acted _ (.setQuery _ now) rfl
  · exact .same rfl

/-- A key acts on the select list by one action of a picking session at the most. -/
theorem acted_handleKey (p : Picking) (key : Input.Key) (now : Nat) :
    Acted p (p.handleKey key now).2 := by
  unfold handleKey
  split
  · exact .same rfl
  · split
    · split
      · exact .acted _ (.press .escape) rfl
      · exact .same rfl
    · exact .acted _ (.press .up) rfl
    · exact .acted _ (.press .down) rfl
    · exact .acted _ (.press .tab) rfl
    · exact p.acted_enter
    · split
      · exact .acted _ (.press .backspace) rfl
      · exact p.acted_edit key now
    · exact p.acted_edit key now

/-- An event acts on the select list by one action of a picking session at the most. -/
theorem acted_perform (p : Picking) (event : PickEvent) : Acted p (p.perform event).2 := by
  cases event with
  | key key now => exact p.acted_handleKey key now
  | tick now => exact .acted _ (.tick now) rfl
  | draw screen => exact .same rfl
  | work move => exact .acted _ (.work move) rfl

/-- The select list of a session lives by the actions of a session. -/
theorem exists_live (p : Picking) (events : List PickEvent) :
    ∃ actions : List Action, (∀ action ∈ actions, action.OfPicking) ∧
      (p.drive events).selector = p.selector.live actions := by
  induction events generalizing p with
  | nil => exact ⟨[], List.forall_mem_nil _, rfl⟩
  | cons event rest ih =>
    obtain ⟨actions, picking, later⟩ := ih (p.perform event).2
    have driven : (p.drive (event :: rest)).selector = (p.perform event).2.selector.live actions :=
      later
    cases p.acted_perform event with
    | same selector =>
      -- an event that does not reach the list adds no action
      rw [selector] at driven
      exact ⟨actions, picking, driven⟩
    | acted action first selector =>
      rw [selector] at driven
      exact ⟨action :: actions, List.forall_mem_cons.mpr ⟨first, picking⟩, driven⟩

/-- What holds of the select list whenever a session looks at it. -/
structure Sound (s : Selector) : Prop extends Coherent s, HighlightFits s, Pickable s where
  proper : s.selected.Proper s.config.multiple

/-- The select list of a session is sound, and keeps its settings. -/
theorem sound_drive (config : Select.Config) (candidates : List Choice) (actions : List Action)
    (begun : p.selector = ((Selector.ofChoices config candidates).live actions).openList)
    (unhooked : ((Selector.ofChoices config candidates).live actions).hooks.results = none)
    (events : List PickEvent) :
    Sound (p.drive events).selector ∧ (p.drive events).selector.config = config := by
  obtain ⟨later, picking, driven⟩ := p.exists_live events
  -- Opening the list is one more of its actions, so all of it is a single life.
  have whole : (p.drive events).selector = (Selector.ofChoices config candidates).live
      (actions ++ .step (.operation .openList) :: later) := by
    rw [driven, begun]
    unfold Selector.live
    rw [List.foldl_append]
    rfl
  have pickable : Pickable (p.drive events).selector := by
    rw [driven, begun]
    exact (Pickable.openList unhooked).live picking
  generalize (p.drive events).selector = s at whole pickable
  subst whole
  refine ⟨⟨.live config candidates _, .live config candidates _, pickable, ?_⟩, ?_⟩
  · exact Selector.live_proper (Selector.ofChoices_proper config candidates) _
  · exact (Selector.live_config _ _).trans (Selector.refilter_config _)

/-! ## Enter -/

/-- The enter key does what enter does. -/
theorem handleKey_enter {key : Input.Key} (enter : key.code = .enter) (now : Nat) :
    p.handleKey key now = p.enter := by
  unfold handleKey
  rw [if_neg (by simp [Input.Key.isControl, enter]), enter]

/-- Where nothing is highlighted enter accepts what is selected. -/
theorem enter_of_none (none : p.selector.highlighted = none) :
    p.enter = (some (p.outcome true), p) := by
  unfold enter Selector.highlightedChoice?
  rw [none, Option.bind_none]

/-- In a list for a single choice enter selects the highlighted one and accepts. -/
theorem enter_of_single {choice : Choice} (offered : Offered p.selector choice)
    (single : p.selector.config.multiple = false) :
    ∃ chosen, chosen.key = choice.key ∧
      p.enter.1 = some { accepted := true, query := p.selector.query, selected := [chosen] } := by
  obtain ⟨chosen, same, only⟩ := offered.enter_single single
  refine ⟨chosen, same, ?_⟩
  have query : (p.selector.handleKey .enter).2.query = p.selector.query :=
    Selector.handleKey_query _ _
  unfold enter outcome apply
  simp [offered.highlighted, single, only, query]

/-- In a list for several choices enter adds the highlighted one or takes it out, and goes on. -/
theorem enter_of_several {choice : Choice} (offered : Offered p.selector choice)
    (several : p.selector.config.multiple = true)
    (proper : p.selector.selected.Proper p.selector.config.multiple) :
    p.enter = (none, { p with
      selector := { p.selector with
        selected := ⟨
          if p.selector.selected.contains choice.key then
            p.selector.selected.choices.filter (·.key != choice.key)
          else p.selector.selected.choices ++ [choice]⟩ : Selector }.refilter }) := by
  unfold enter
  rw [offered.highlighted]
  dsimp only
  rw [if_neg (by simp [several])]
  by_cases stored : p.selector.selected.contains choice.key = true
  · rw [if_pos stored, if_pos stored, proper.remove_eq stored]
  · rw [if_neg stored, if_neg stored]
    unfold apply
    rw [offered.enter_fresh several (by simpa using stored)]

/-- **Enter does one thing.** Whatever has happened to a session that began on a select list
without a hook for the results: where nothing is highlighted, enter ends the session with what is
selected. Where a choice is highlighted, it is enabled and the list is open. If a single choice can
be selected, enter then ends the session with one selected choice, which has the key of the
highlighted one. If several can be selected, enter does not end the session, and what it does is to
deselect the choice with this key, or else to select the highlighted choice as the last. -/
theorem enter_does_one_thing (config : Select.Config) (candidates : List Choice)
    (actions : List Action) (theme : Theme) (title prompt : String) (events : List PickEvent)
    (key : Input.Key) (now : Nat)
    (unhooked : ((Selector.ofChoices config candidates).live actions).hooks.results = none)
    (enter : key.code = .enter) :
    let begun : Picking :=
      { start ((Selector.ofChoices config candidates).live actions) with theme, title, prompt }
    let p := begun.drive events
    let s := p.selector
    (s.highlighted = none → p.handleKey key now = (some (p.outcome true), p)) ∧
    ∀ index, s.highlighted = some index →
      ∃ choice, s.filtered[index]? = some choice ∧ choice.disabled = false ∧ s.isOpen = true ∧
        (config.multiple = false → ∃ chosen, chosen.key = choice.key ∧
          (p.handleKey key now).1 =
            some { accepted := true, query := s.query, selected := [chosen] }) ∧
        (config.multiple = true →
          p.handleKey key now = (none, { p with
            selector := { s with
              selected := ⟨
                if s.selected.contains choice.key then
                  s.selected.choices.filter (·.key != choice.key)
                else s.selected.choices ++ [choice]⟩ : Selector }.refilter })) := by
  intro begun p s
  obtain ⟨sound, settings⟩ := sound_drive config candidates actions rfl unhooked events (p := begun)
  rw [handleKey_enter enter]
  refine ⟨enter_of_none, ?_⟩
  intro index highlighted
  obtain ⟨choice, here, offered⟩ :=
    sound.toPickable.offered sound.toCoherent sound.toHighlightFits highlighted
  refine ⟨choice, here, offered.enabled, offered.isOpen, ?_, ?_⟩
  · intro single
    exact enter_of_single offered (settings.symm ▸ single)
  · intro several
    exact enter_of_several offered (settings.symm ▸ several) sound.proper

/-- Fig is highlighted and has been selected as the first of two, so enter deselects it. Pressed
again it selects it as the last. With the list closed enter accepts what is selected. -/
theorem enter_does_one_thing_orchard :
    let orchard := [Choice.ofLabel "Kiwi", Choice.ofLabel "Fig"]
    let seeded : List Action :=
      [.step (.operation (.withSelected [.ofLabel "Fig", .ofLabel "Kiwi"]))]
    let selector := (Selector.ofChoices { multiple := true } orchard).live seeded
    let begun : Picking :=
      { start selector with theme := Theme.defaultTheme, title := "Fruit", prompt := "Find" }
    let enter : Input.Key := { code := .enter }
    let found : List PickEvent := [.key { code := .char 'f' } 0, .key { code := .down } 1]
    let once := (begun.drive found).handleKey enter 2
    let twice := (begun.drive (found ++ [.key enter 2])).handleKey enter 3
    let closed := begun.drive (found ++ [.key { code := .tab } 2])
    selector.hooks.results = none ∧ once.1 = none ∧ twice.1 = none ∧
      once.2.selector.selected.choices = [.ofLabel "Kiwi"] ∧
      twice.2.selector.selected.choices = [.ofLabel "Kiwi", .ofLabel "Fig"] ∧
      closed.handleKey enter 3 = (some (closed.outcome true), closed) ∧
      (closed.outcome true).selected = [.ofLabel "Fig", .ofLabel "Kiwi"] := by
  intro orchard seeded selector begun enter found once twice closed
  have unhooked : selector.hooks.results = none := rfl
  have always (events : List PickEvent) (now : Nat) :=
    enter_does_one_thing { multiple := true } orchard seeded Theme.defaultTheme "Fruit" "Find"
      events enter now unhooked rfl
  have shown (events : List PickEvent) (now : Nat)
      (highlighted : (begun.drive events).selector.highlighted = some 0) :
      ((begun.drive events).handleKey enter now).1 = none := by
    obtain ⟨_, -, -, -, -, several⟩ := (always events now).2 0 highlighted
    rw [several rfl]
  have hidden : closed.selector.highlighted = none := by decide +kernel
  refine ⟨unhooked, shown _ 2 (by decide +kernel), shown _ 3 (by decide +kernel),
    by decide +kernel, by decide +kernel, (always _ 3).1 hidden, by decide +kernel⟩

end Picklist.Session.Picking
