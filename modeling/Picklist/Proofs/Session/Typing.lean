import Picklist.Proofs.Select.Coherence
import Picklist.Session.Picking

/-!
# The text of the input and the query

A picking session holds its query twice: the input has it as the text that is edited, and the select
list as what it filters by. A key goes to one of the two. What reaches the select list never changes
the query, and what reaches the input tells truly whether the text was changed, so that the query is
taken over just when it has to be. A session that starts with a query of more than one line has
another query than text from the start, as an input is filled with the first line alone.
-/

set_option autoImplicit false

/-! ## The first line -/

namespace Picklist.Text

/-- A text without line breaks is its own first line. -/
theorem headD_linesFrom {rest : List Char} (single : '\n' ∉ rest) (current : List Char) :
    (linesFrom current rest).headD [] = current.reverse ++ rest := by
  induction rest generalizing current with
  | nil =>
    unfold linesFrom
    split
    · rename_i empty
      simp [List.isEmpty_iff.mp empty]
    · simp
  | cons c rest ih =>
    obtain ⟨other, single⟩ := List.ne_and_not_mem_of_not_mem_cons single
    unfold linesFrom
    rw [if_neg other.symm, ih single, List.reverse_cons, List.append_assoc]
    rfl

/-- Dropping a carriage return adds no line break. -/
theorem not_mem_dropReturn {line : List Char} (single : '\n' ∉ line) :
    '\n' ∉ dropReturn line := by
  unfold dropReturn
  split
  · exact fun member => single (List.dropLast_subset line member)
  · exact single

/-- The first line has no line break in it. -/
theorem not_mem_headD_linesFrom {current : List Char} (single : '\n' ∉ current)
    (rest : List Char) : '\n' ∉ (linesFrom current rest).headD [] := by
  induction rest generalizing current with
  | nil =>
    unfold linesFrom
    split
    · simp
    · simpa using single
  | cons c rest ih =>
    unfold linesFrom
    split
    · exact not_mem_dropReturn (by simpa using single)
    · rename_i other
      exact ih (by simpa using ⟨fun same => other same.symm, single⟩)

/-- A text is its own first line if and only if no line ends in it. -/
theorem headD_lines_eq_iff (cs : List Char) : (lines cs).headD [] = cs ↔ '\n' ∉ cs := by
  constructor
  · intro same
    rw [← same]
    exact not_mem_headD_linesFrom (by simp) cs
  · intro single
    exact headD_linesFrom single []

end Picklist.Text

/-! ## The text of an input -/

namespace Picklist.Input.QueryInput

/-- An input has a text as its own just if that is a single line. -/
theorem text_ofText_eq_iff (text : String) :
    (ofText text).text = text ↔ '\n' ∉ text.toList := by
  rw [← Text.headD_lines_eq_iff, ← String.toList_inj]
  unfold ofText QueryInput.text TextField.ofLine
  rw [String.toList_ofList]
  rfl

/-- A key press tells truly whether the text was changed. -/
theorem press_tells (q : QueryInput) (key : Key) :
    (q.press key).1 = ((q.press key).2.text != q.text) := by
  unfold press
  split
  · simp
  · rfl

end Picklist.Input.QueryInput

namespace Picklist.Session

open Terminal
open Select (Selector Operation Coherent)

/-- What happens to a picking session. -/
inductive PickEvent where
  | key (key : Input.Key) (now : Nat)
  | tick (now : Nat)
  | draw (screen : Screen)
  /-- A move of the search worker. -/
  | work (move : Select.WorkerMove)

namespace Picking

/-- The session after an event, with the outcome if it has ended. -/
def perform (p : Picking) : PickEvent → Option PickOutcome × Picking
  | .key key now => p.handleKey key now
  | .tick now => (none, p.tick now)
  | .draw screen => (none, (p.draw screen).2)
  | .work move => (none, { p with selector := p.selector.work move })

/-- The session after a number of events or, where it ends before, as it ended. -/
def run (p : Picking) : List PickEvent → Option PickOutcome × Picking
  | [] => (none, p)
  | event :: rest =>
    match p.perform event with
    | (none, q) => q.run rest
    | (some outcome, q) => (some outcome, q)

/-- The view with the rows for a text, listed anew. -/
def viewFor (p : Picking) (text : String) : View.SelectView :=
  let s := p.selector
  let query := Text.normalizeQueryString s.config.ignoreDiacritics text
  View.selectView
    { s.snapshot with
      query := text
      expression := s.hooks.compile query
      filtered := Select.filter s.candidates query s.selected s.config s.hooks }
    p.theme

/-- The text of the input is the query of the select list. -/
def Agrees (p : Picking) : Prop := p.input.text = p.selector.query

/-! ## What a key press can do -/

/-- The session after an operation of the select list. -/
def operate (p : Picking) (operation : Operation) : Picking :=
  { p with selector := p.selector.perform operation }

/-- What a key press can come to: the session ends, the select list does something that types
nothing, with or without the session ending, or the key goes to the input. -/
inductive Pressed (p : Picking) (key : Input.Key) (now : Nat) :
    Option PickOutcome × Picking → Prop where
  | ended (accepted : Bool) : Pressed p key now (some (p.outcome accepted), p)
  | operated (operation : Operation) (silent : operation.isTyping = false) :
    Pressed p key now (none, p.operate operation)
  | picked (operation : Operation) (silent : operation.isTyping = false) (accepted : Bool) :
    Pressed p key now (some ((p.operate operation).outcome accepted), p.operate operation)
  | edited : Pressed p key now (none, p.edit key now)

/-- Enter comes to one of these. -/
theorem pressed_enter (p : Picking) (key : Input.Key) (now : Nat) : p.Pressed key now p.enter := by
  unfold enter
  split
  · exact .ended true
  · split
    · exact .picked (.press .enter) rfl true
    · split
      · exact .operated (.remove _) rfl
      · exact .operated (.press .enter) rfl

/-- Every key press comes to one of these. -/
theorem pressed_handleKey (p : Picking) (key : Input.Key) (now : Nat) :
    p.Pressed key now (p.handleKey key now) := by
  unfold handleKey
  split
  · exact .ended false
  · split
    · split
      · exact .operated (.press .escape) rfl
      · exact .ended false
    · exact .operated (.press .up) rfl
    · exact .operated (.press .down) rfl
    · exact .operated (.press .tab) rfl
    · exact p.pressed_enter key now
    · split
      · exact .operated (.press .backspace) rfl
      · exact .edited
    · exact .edited

/-! ## What one event leaves -/

variable {p : Picking}

/-- What types nothing leaves text and query together. -/
theorem Agrees.operate (h : p.Agrees) {operation : Operation}
    (silent : operation.isTyping = false) : (p.operate operation).Agrees :=
  h.trans (p.selector.perform_query silent).symm

/-- The query is taken over from the input just when its text has changed. -/
theorem Agrees.edit (h : p.Agrees) (key : Input.Key) (now : Nat) : (p.edit key now).Agrees := by
  have told := p.input.press_tells key
  unfold Picking.edit
  generalize p.input.press key = pressed at told
  obtain ⟨changed, input⟩ := pressed
  cases changed with
  | true => exact (Selector.setQuery_query _ _ _).symm
  | false =>
    have same : input.text = p.input.text := by simpa using told.symm
    exact same.trans h

/-- Painting scrolls the input and the list. -/
theorem draw_eq (p : Picking) (screen : Screen) :
    ∃ viewport listState, (p.draw screen).2 =
      { p with input := { field := { p.input.field with viewport } }, listState } :=
  ⟨_, _, rfl⟩

/-- An event keeps text and query together, and an outcome tells just this text. -/
theorem Agrees.perform (h : p.Agrees) (event : PickEvent) :
    (p.perform event).2.Agrees ∧
      ∀ outcome ∈ (p.perform event).1,
        outcome.query = p.input.text ∧ outcome.query = (p.perform event).2.input.text := by
  cases event with
  | key key now =>
    show (p.handleKey key now).2.Agrees ∧ ∀ outcome ∈ (p.handleKey key now).1,
      outcome.query = p.input.text ∧ outcome.query = (p.handleKey key now).2.input.text
    have pressed := p.pressed_handleKey key now
    generalize p.handleKey key now = after at pressed
    cases pressed with
    | ended accepted =>
      refine ⟨h, fun outcome told => ?_⟩
      obtain rfl := Option.mem_some.mp told
      exact ⟨h.symm, h.symm⟩
    | operated operation silent => exact ⟨h.operate silent, fun _ told => nomatch told⟩
    | picked operation silent accepted =>
      have agrees := h.operate silent
      refine ⟨agrees, fun outcome told => ?_⟩
      obtain rfl := Option.mem_some.mp told
      exact ⟨agrees.symm, agrees.symm⟩
    | edited => exact ⟨h.edit key now, fun _ told => nomatch told⟩
  | tick now =>
    have silent : (Operation.tick now).isTyping = false := rfl
    exact ⟨h.operate silent, fun _ told => nomatch told⟩
  | draw screen =>
    obtain ⟨viewport, listState, drawn⟩ := p.draw_eq screen
    refine ⟨?_, fun _ told => nomatch told⟩
    show (p.draw screen).2.Agrees
    rw [drawn]
    exact h
  | work move => exact ⟨h, fun _ told => nomatch told⟩

/-- Typing keeps the caches right. -/
theorem coherent_edit (h : Coherent p.selector) (key : Input.Key) (now : Nat) :
    Coherent (p.edit key now).selector := by
  unfold edit
  split
  · exact Coherent.setQuery _ _ _
  · exact h

/-- Every event keeps the caches right. -/
theorem coherent_perform (h : Coherent p.selector) (event : PickEvent) :
    Coherent (p.perform event).2.selector := by
  cases event with
  | key key now =>
    show Coherent (p.handleKey key now).2.selector
    have pressed := p.pressed_handleKey key now
    generalize p.handleKey key now = after at pressed
    cases pressed with
    | ended accepted => exact h
    | operated operation silent => exact h.perform operation
    | picked operation silent accepted => exact h.perform operation
    | edited => exact coherent_edit h key now
  | tick now => exact h.perform (.tick now)
  | draw screen => exact h
  | work move => exact h.withSearch _

/-! ## What a session leaves -/

/-- The rows are filtered by the text of the input. -/
structure Follows (p : Picking) : Prop extends Coherent p.selector where
  agrees : p.Agrees

/-- A session that follows its text goes on to do so, and its outcome tells this text. -/
theorem Follows.run (h : p.Follows) (events : List PickEvent) :
    (p.run events).2.Follows ∧
      ∀ outcome ∈ (p.run events).1, outcome.query = (p.run events).2.input.text := by
  induction events generalizing p with
  | nil => exact ⟨h, fun _ told => nomatch told⟩
  | cons event rest ih =>
    have coherent := coherent_perform h.toCoherent event
    obtain ⟨agrees, tells⟩ := h.agrees.perform event
    unfold Picking.run
    generalize p.perform event = after at coherent agrees tells
    obtain ⟨outcome, q⟩ := after
    cases outcome with
    | none => exact ih ⟨coherent, agrees⟩
    | some outcome => exact ⟨⟨coherent, agrees⟩, fun _ told => (tells _ told).2⟩

/-- The view is what listing the choices anew for the text gives. -/
theorem Follows.view_eq (h : p.Follows) : p.view = p.viewFor p.input.text := by
  have asked : p.input.text = p.selector.query := h.agrees
  unfold view viewFor
  dsimp only
  rw [asked, ← h.normalized, ← h.compiled, ← h.listed]
  rfl

/-- The view that is painted is the one with the rows for the text. -/
theorem Follows.draw_eq_paint (h : p.Follows) (screen : Screen) :
    p.draw screen = p.paint (p.viewFor p.input.text) screen := by
  unfold draw
  rw [h.view_eq]

/-- A session starts with the text that is the query if and only if the query is a single line. -/
theorem agrees_start_iff (selector : Selector) (theme : Theme) (title prompt : String) :
    ({ start selector with theme, title, prompt } : Picking).Agrees ↔
      '\n' ∉ selector.query.toList := by
  rw [← Input.QueryInput.text_ofText_eq_iff]
  show (Input.QueryInput.ofText selector.query).text = selector.openList.query ↔ _
  have silent : Operation.openList.isTyping = false := rfl
  have same : selector.openList.query = selector.query := selector.perform_query silent
  rw [same]

/-- **The rows are filtered by the text of the input.** A session starts with the query as its text
just when the query is a single line. From then on no event parts the two, whether or not it ends
the session, and an outcome tells the text that stood in the input. So the view of a session that
has run for a while has the rows that listing the choices anew for the text of the input gives, and
these are the rows that it paints on any screen. -/
theorem rows_follow_the_text :
    (∀ (selector : Selector) (theme : Theme) (title prompt : String),
      ({ start selector with theme, title, prompt } : Picking).Agrees ↔
        '\n' ∉ selector.query.toList) ∧
    (∀ (p : Picking) (event : PickEvent), p.Agrees →
      (p.perform event).2.Agrees ∧
        ∀ outcome ∈ (p.perform event).1,
          outcome.query = p.input.text ∧ outcome.query = (p.perform event).2.input.text) ∧
    ∀ (config : Select.Config) (candidates : List Choice) (actions : List Select.Action)
      (theme : Theme) (title prompt : String) (events : List PickEvent),
      let selector := (Selector.ofChoices config candidates).live actions
      let after := ({ start selector with theme, title, prompt } : Picking).run events
      '\n' ∉ selector.query.toList →
        after.2.Agrees ∧ after.2.view = after.2.viewFor after.2.input.text ∧
          (∀ screen, after.2.draw screen =
            after.2.paint (after.2.viewFor after.2.input.text) screen) ∧
          ∀ outcome ∈ after.1, outcome.query = after.2.input.text := by
  refine ⟨agrees_start_iff, fun p event h => h.perform event, ?_⟩
  intro config candidates actions theme title prompt events selector after single
  have coherent : Coherent selector := Coherent.live config candidates actions
  have begun : Follows { start selector with theme, title, prompt } :=
    ⟨coherent.openList, (agrees_start_iff selector theme title prompt).mpr single⟩
  obtain ⟨follows, tells⟩ := begun.run events
  exact ⟨follows.agrees, follows.view_eq, follows.draw_eq_paint, tells⟩

/-- Typing, taking back, typing again and accepting. -/
theorem rows_follow_the_text_orchard :
    let orchard := [Choice.ofLabel "Kiwi", Choice.ofLabel "Fig"]
    let selector := (Selector.ofChoices {} orchard).live [.step (.operation (.setQuery "f" 0))]
    let p : Picking :=
      { start selector with theme := Theme.defaultTheme, title := "Fruit", prompt := "Find" }
    let typed : PickEvent := .key { code := .char 'i' } 1
    let events : List PickEvent :=
      [typed, .key { code := .char 'u', control := true } 2, typed, .tick 3,
        .key { code := .enter } 4]
    let after := p.run events
    (p.perform typed).2.Agrees ∧
      after.2.view = after.2.viewFor "fi" ∧ after.1.map (·.query) = some "fi" := by
  intro orchard selector p typed events after
  obtain ⟨starts, keeps, runs⟩ := rows_follow_the_text
  have single : '\n' ∉ selector.query.toList := by decide +kernel
  have begun : p.Agrees := (starts selector Theme.defaultTheme "Fruit" "Find").mpr single
  have text : after.2.input.text = "fi" := by decide +kernel
  have ended : after.1.isSome := by decide +kernel
  obtain ⟨-, shown, -, told⟩ := runs {} orchard [.step (.operation (.setQuery "f" 0))]
    Theme.defaultTheme "Fruit" "Find" events single
  -- The run gets a name before it is compared with `after`, as it would be computed otherwise.
  generalize same : Picking.run _ events = q at shown told
  have same : after = q := same
  clear_value after
  subst same
  obtain ⟨outcome, ended⟩ := Option.isSome_iff_exists.mp ended
  refine ⟨(keeps p typed begun).1, ?_, ?_⟩
  · rw [← text]
    exact shown
  · rw [ended]
    exact congrArg some ((told outcome ended).trans text)

end Picking

end Picklist.Session
