import Picklist.Proofs.Select.Awaiting

/-!
# The worker as a mailbox

A worker that keeps no queue has a box for one letter: a new search takes the place of the one in
the box, and a worker that is not busy takes what lies there. This is all that the searches of a
select list show of their worker. In every run the calls of the provider and the answers are those
of a mailbox; that the queue is longer shows only in the requests that are passed over.

What a mailbox calls and answers is read off from its own few steps.
-/

set_option autoImplicit false

namespace Picklist.Select

/-- Number and query of a search. -/
def Request.heading (r : Request) : Nat × String := (r.id, r.query)

/-- Number and query of the search that is answered. -/
def Response.heading (a : Response) : Nat × String := (a.id, a.query)

namespace Log

/-- The requests that the provider was called with. -/
def called (log : Log) : List Request :=
  log.filterMap fun | .called request => some request | _ => none

/-- The calls of two logs, one after the other, are those of both. -/
theorem called_append (log new : Log) : called (log ++ new) = called log ++ called new :=
  List.filterMap_append

/-- Where nothing is called the calls stay the same. -/
theorem called_append_of_nil {log new : Log} (silent : called new = []) :
    called (log ++ new) = called log := by
  rw [called_append, silent, List.append_nil]

/-- Where nothing is issued the newest search stays the same. -/
theorem newest?_append_of_nil {log new : Log} (silent : issued new = []) :
    newest? (log ++ new) = newest? log := by
  unfold newest?
  rw [issued_append_of_nil silent]

/-- The search that was issued last is the newest. -/
theorem newest?_issued (log : Log) (r : Request) : newest? (log ++ [.issued r]) = some r := by
  have issued : issued (log ++ [.issued r]) = log.issued ++ [r] := issued_append ..
  unfold newest?
  rw [issued, List.getLast?_concat]

end Log

/-! ## Mailboxes -/

/-- A worker with a box for a single letter. -/
structure Mailbox where
  /-- The number of the last letter. -/
  latest : Nat := 0
  letter : Option Request := none
  /-- The letter that was taken out and has not been answered. -/
  answering : Option Request := none

namespace Mailbox

/-- What an event does to a mailbox, if it can happen there. Letters that are passed over do not
exist. -/
def step (m : Mailbox) : SearchEvent → Option Mailbox
  | .issued r => some { m with latest := r.id, letter := some r }
  | .called r =>
    if m.answering = none ∧ m.letter = some r then
      some { m with letter := none, answering := some r }
    else none
  | .sent a =>
    match m.answering with
    | some r => if a.heading = r.heading then some { m with answering := none } else none
    | none => none
  | .typed _ | .skipped _ | .read _ _ | .replaced _ => some m

/-- The mailbox after the events of a log, if they can happen in this order. -/
def replay (m : Mailbox) (log : Log) : Option Mailbox :=
  log.foldlM step m

/-- A log in two parts is replayed one after the other. -/
theorem replay_append (m : Mailbox) (log new : Log) :
    m.replay (log ++ new) = (m.replay log).bind (replay · new) := by
  unfold replay
  rw [List.foldlM_append]
  rfl

/-- A log of one event is replayed in one step. -/
theorem replay_single (m : Mailbox) (e : SearchEvent) : m.replay [e] = m.step e := by
  unfold replay
  rw [List.foldlM_cons]
  cases m.step e <;> rfl

/-- The calls and answers in the log of a mailbox: a call is the last search so far, and the letter
in the box is the one that has not been called with. -/
structure Account (log : Log) (m : Mailbox) : Prop where
  inOrder : (log.called ++ m.letter.toList).Sublist log.issued
  newest : m.letter.or log.called.getLast? = log.newest?
  answered : log.called.map Request.heading =
    log.sent.map Response.heading ++ m.answering.toList.map Request.heading

namespace Account

variable {log : Log} {m next : Mailbox}

/-- An empty mailbox accounts for the empty log. -/
theorem new : Account [] {} := ⟨List.Sublist.refl _, rfl, rfl⟩

/-- Events that do not concern the mailbox leave its account right. -/
theorem silent (h : Account log m) {new : Log} (issued : new.issued = [])
    (called : new.called = []) (sent : new.sent = []) : Account (log ++ new) m where
  inOrder := by
    rw [Log.called_append_of_nil called, Log.issued_append_of_nil issued]
    exact h.inOrder
  newest := by
    rw [Log.called_append_of_nil called, Log.newest?_append_of_nil issued]
    exact h.newest
  answered := by
    rw [Log.called_append_of_nil called, Log.sent_append_of_nil sent]
    exact h.answered

/-- A search that is issued becomes the letter of the account. -/
theorem issue (h : Account log m) (r : Request) :
    Account (log ++ [.issued r]) { m with latest := r.id, letter := some r } where
  inOrder := by
    rw [Log.called_append_of_nil rfl, Log.issued_append]
    have calls : log.called.Sublist log.issued :=
      (List.sublist_append_left _ _).trans h.inOrder
    exact calls.append (List.Sublist.refl [r])
  newest := by
    rw [Log.newest?_issued, Option.some_or]
  answered := by
    rw [Log.called_append_of_nil rfl, Log.sent_append_of_nil rfl]
    exact h.answered

/-- A letter that is taken out becomes the call that has to be answered. -/
theorem call (h : Account log m) {r : Request} (free : m.answering = none)
    (letter : m.letter = some r) :
    Account (log ++ [.called r]) { m with letter := none, answering := some r } where
  inOrder := by
    have called : Log.called (log ++ [.called r]) = log.called ++ [r] := Log.called_append ..
    have ordered := h.inOrder
    rw [letter] at ordered
    rw [called, Log.issued_append_of_nil rfl, Option.toList_none, List.append_nil]
    exact ordered
  newest := by
    have newest := h.newest
    rw [letter, Option.some_or] at newest
    rw [Log.newest?_append_of_nil rfl, Log.called_append, Option.none_or, ← newest]
    exact List.getLast?_concat
  answered := by
    have answered := h.answered
    rw [free] at answered
    rw [Log.sent_append_of_nil rfl, Log.called_append, List.map_append, answered]
    simp [Log.called]

/-- An answer closes the call that it belongs to. -/
theorem send (h : Account log m) {r : Request} {a : Response} (busy : m.answering = some r)
    (same : a.heading = r.heading) :
    Account (log ++ [.sent a]) { m with answering := none } where
  inOrder := by
    rw [Log.called_append_of_nil rfl, Log.issued_append_of_nil rfl]
    exact h.inOrder
  newest := by
    rw [Log.called_append_of_nil rfl, Log.newest?_append_of_nil rfl]
    exact h.newest
  answered := by
    have answered := h.answered
    rw [busy] at answered
    rw [Log.called_append_of_nil rfl, Log.sent_append, List.map_append, answered]
    simp [Log.sent, same]

/-- Every step of a mailbox keeps its account right. -/
theorem step (h : Account log m) {e : SearchEvent} (after : m.step e = some next) :
    Account (log ++ [e]) next := by
  cases e with
  | issued r =>
    obtain rfl := Option.some.inj after
    exact h.issue r
  | called r =>
    unfold Mailbox.step at after
    dsimp only at after
    split at after
    · rename_i ready
      obtain rfl := Option.some.inj after
      exact h.call ready.1 ready.2
    · cases after
  | sent a =>
    unfold Mailbox.step at after
    dsimp only at after
    split at after
    · rename_i r busy
      split at after
      · rename_i same
        obtain rfl := Option.some.inj after
        exact h.send busy same
      · cases after
    · cases after
  | _ =>
    obtain rfl := Option.some.inj after
    exact h.silent rfl rfl rfl

/-- Every replay keeps the account right. -/
theorem replay {new : Log} (h : Account log m) (after : m.replay new = some next) :
    Account (log ++ new) next := by
  induction new generalizing log m with
  | nil =>
    obtain rfl := Option.some.inj after
    rw [List.append_nil]
    exact h
  | cons e rest ih =>
    obtain ⟨between, first, later⟩ := Option.bind_eq_some_iff.mp after
    have whole := ih (h.step first) later
    rwa [List.append_assoc] at whole

end Account

/-- What is called with is the search that was issued last. -/
theorem newest_of_called {m : Mailbox} {earlier later : Log} {r : Request}
    (replayed : replay {} (earlier ++ .called r :: later) = some m) :
    earlier.newest? = some r := by
  rw [replay_append] at replayed
  obtain ⟨before, first, rest⟩ := Option.bind_eq_some_iff.mp replayed
  obtain ⟨after, called, -⟩ := Option.bind_eq_some_iff.mp rest
  have account : Account earlier before := Account.new.replay first
  unfold step at called
  dsimp only at called
  split at called
  · rename_i ready
    rw [← account.newest, ready.2, Option.some_or]
  · cases called

end Mailbox

/-! ## The exchange shows a mailbox -/

/-- The exchange shows the mailbox: the letter is the newest request that the worker has not looked
at. -/
structure Shows (x : Exchange) (m : Mailbox) : Prop where
  letter : m.letter = x.unseen.getLast?
  answering : m.answering = x.answering?

namespace Tracked

variable {log : Log} {x : Exchange} {r : Request} {rest : List Request}

/-- While the worker waits, its oldest unseen request stands in line right behind the answers. -/
theorem line_of_unseen (unseen : x.unseen = r :: rest) (waiting : x.worker = .waiting) :
    x.line = (x.responses.map Response.id ++ [r.id]) ++ rest.map Request.id := by
  have free : x.answering? = none := by simp [Exchange.answering?, waiting]
  unfold Exchange.line Exchange.asked
  rw [free, unseen]
  simp

/-- Nothing waits behind the latest request. -/
theorem alone_of_latest (h : Tracked log x) (unseen : x.unseen = r :: rest)
    (latest : r.id = x.latest) : rest = [] := by
  have requested (q : Request) (mem : q ∈ x.unseen) : q.id ≤ x.latest := by
    have asked : q ∈ x.asked := List.mem_append_right _ mem
    exact (h.id_bounds (h.requested q asked)).2
  have ordered : (x.unseen.map Request.id).Pairwise (· < ·) := by
    have line := (List.pairwise_append.mp h.ordered).2.1
    unfold Exchange.line Exchange.asked at line
    rw [List.map_append] at line
    exact (List.pairwise_append.mp (List.pairwise_append.mp line).2.1).2.1
  rw [unseen] at ordered requested
  cases rest with
  | nil => rfl
  | cons q others =>
    have above : r.id < q.id := (List.pairwise_cons.mp ordered).1 _ List.mem_cons_self
    have bound := requested q (List.mem_cons_of_mem r List.mem_cons_self)
    omega

/-- Behind a request that is not the latest there waits another. -/
theorem followed_of_older (h : Tracked log x) (waiting : x.worker = .waiting)
    (unseen : x.unseen = r :: rest) (older : r.id ≠ x.latest) : rest ≠ [] := by
  rintro rfl
  have alive : x.worker ≠ .stopped := by simp [waiting]
  have asked : r ∈ x.asked := by
    unfold Exchange.asked
    rw [unseen]
    exact List.mem_append_right _ List.mem_cons_self
  have bounds := h.id_bounds (h.requested r asked)
  have there := h.present alive (by omega)
  -- the number of the request is the last of the passage, and so is the latest number
  have path : passage log x =
      (log.reads.map Response.id ++ x.responses.map Response.id) ++ [r.id] := by
    unfold passage
    rw [line_of_unseen unseen waiting]
    simp
  have ordered := h.ordered
  rw [path] at there ordered
  rcases List.mem_append.mp there with before | last
  · have below := (List.pairwise_append.mp ordered).2.2 _ before _ List.mem_cons_self
    omega
  · rw [List.mem_singleton] at last
    omega

end Tracked

namespace Shows

variable {log : Log} {x y : Exchange} {m : Mailbox}

/-- What an exchange shows depends on the unseen requests and the one being answered. -/
theorem congr (h : Shows x m) (unseen : y.unseen = x.unseen)
    (answering : y.answering? = x.answering?) : Shows y m :=
  ⟨by rw [unseen, h.letter], by rw [answering, h.answering]⟩

/-- Every move of the worker is one of the mailbox. -/
theorem turn (h : x.worker ≠ .stopped → Shows x m) (tracked : Tracked log x) {new : Log}
    (out : x.Turn new y) :
    ∃ next, m.replay new = some next ∧ (y.worker ≠ .stopped → Shows y next) := by
  cases out with
  | idle => exact ⟨m, rfl, h⟩
  | received r rest waiting free queue =>
    refine ⟨m, rfl, fun alive => (h alive).congr ?_ rfl⟩
    simp [Exchange.unseen, free, queue]
  | called r waiting taken latest =>
    have shown := h (by simp [waiting])
    have unseen : x.unseen = r :: x.requests := by simp [Exchange.unseen, taken]
    have none_behind := tracked.alone_of_latest unseen latest
    have letter : m.letter = some r := by
      rw [shown.letter, unseen, none_behind]
      rfl
    have free : m.answering = none := by
      rw [shown.answering]
      simp [Exchange.answering?, waiting]
    refine ⟨{ m with letter := none, answering := some r }, ?_, fun _ => ⟨?_, rfl⟩⟩
    · rw [Mailbox.replay_single]
      exact if_pos ⟨free, letter⟩
    · simp [Exchange.unseen, none_behind]
  | skipped r waiting taken older =>
    have unseen : x.unseen = r :: x.requests := by simp [Exchange.unseen, taken]
    have followed := tracked.followed_of_older waiting unseen older
    obtain ⟨q, others, queue⟩ := List.exists_cons_of_ne_nil followed
    refine ⟨m, rfl, fun alive => ⟨?_, (h alive).answering⟩⟩
    rw [(h alive).letter, unseen, queue]
    simp [Exchange.unseen]
  | answered r outcome busy =>
    have shown := h (by simp [busy])
    have answering : m.answering = some r := by
      rw [shown.answering]
      simp [Exchange.answering?, busy]
    refine ⟨{ m with answering := none }, ?_, fun _ => ⟨shown.letter, rfl⟩⟩
    rw [Mailbox.replay_single]
    unfold Mailbox.step
    dsimp only
    rw [answering]
    exact if_pos rfl
  | stopped => exact ⟨m, rfl, fun alive => absurd rfl alive⟩

/-- What is issued lies in the box. -/
theorem issue (h : x.worker ≠ .stopped → Shows x m) (query : String) (previous : List Choice) :
    ∃ next, m.replay [.issued (x.nextRequest query previous)] = some next ∧
      ((x.issue query previous).worker ≠ .stopped → Shows (x.issue query previous) next) := by
  refine ⟨_, rfl, ?_⟩
  unfold Exchange.issue
  split
  · rename_i stopped
    exact fun alive => absurd stopped alive
  · intro alive
    refine ⟨?_, (h alive).answering⟩
    unfold Exchange.unseen
    rw [← List.append_assoc, List.getLast?_concat]

/-- Reading leaves the worker alone. -/
theorem reading (h : x.worker ≠ .stopped → Shows x m) {s : Selector} {new : Log}
    {result : Bool × Selector} (out : s.Reading x new result) :
    ∃ y next, result.2.search = some y ∧ m.replay new = some next ∧
      (y.worker ≠ .stopped → Shows y next) := by
  cases out with
  | empty =>
    refine ⟨_, m, rfl, rfl, ?_⟩
    unfold Exchange.noticeStop Exchange.markIdle
    split
    · rename_i stopped
      exact fun alive => absurd stopped alive
    · exact h
  | stale => exact ⟨_, m, rfl, rfl, fun alive => (h alive).congr rfl rfl⟩
  | applied =>
    exact ⟨_, m, Selector.refilter_search _, rfl, fun alive => (h alive).congr rfl rfl⟩
  | rejected => exact ⟨_, m, rfl, rfl, fun alive => (h alive).congr rfl rfl⟩

/-- Every move of a select list is one that its mailbox can make. -/
theorem move {s t : Selector} {new : Log} (h : x.worker ≠ .stopped → Shows x m)
    (tracked : Tracked log x) (search : s.search = some x) (move : Move s new t) :
    ∃ y next, t.search = some y ∧ m.replay new = some next ∧
      (y.worker ≠ .stopped → Shows y next) := by
  cases move with
  | quiet same => exact ⟨x, m, same.search.trans search, rfl, h⟩
  | replace candidates => exact ⟨x, m, (Selector.refilter_search _).trans search, rfl, h⟩
  | retype query now => exact ⟨x, m, (Selector.refilter_search _).trans search, rfl, h⟩
  | handOn found out =>
    obtain rfl : x = _ := Option.some.inj (search.symm.trans found)
    cases out with
    | issued held waits due =>
      obtain ⟨next, replayed, shown⟩ := issue h held.value s.candidates
      exact ⟨_, next, rfl, replayed, shown⟩
    | early waits => exact ⟨x, m, search, rfl, h⟩
  | read found _ out =>
    obtain rfl : x = _ := Option.some.inj (search.symm.trans found)
    exact reading h out
  | work found out =>
    obtain rfl : x = _ := Option.some.inj (search.symm.trans found)
    obtain ⟨next, replayed, shown⟩ := turn h tracked out
    exact ⟨_, next, rfl, replayed, shown⟩

/-- What moves log that start with a new exchange can happen in a mailbox, and the exchange shows
it as long as the worker lives. -/
theorem of_moves {s t : Selector} (moves : Moves s log t) (fresh : s.search = some {})
    (few : log.issued.length < Exchange.lastId) :
    ∃ x m, t.search = some x ∧ Mailbox.replay {} log = some m ∧
      (x.worker ≠ .stopped → Shows x m) := by
  induction moves with
  | refl => exact ⟨{}, {}, fresh, rfl, fun _ => ⟨rfl, rfl⟩⟩
  | @tail t u log new moves move ih =>
    have fewer : log.issued.length < Exchange.lastId := Log.issued_length_lt few rfl
    obtain ⟨x, m, search, replayed, shown⟩ := ih fewer
    obtain ⟨z, same, tracked⟩ := Tracked.of_moves moves fresh fewer
    obtain rfl : x = z := Option.some.inj (search.symm.trans same)
    obtain ⟨y, next, later, last, after⟩ := Shows.move shown tracked search move
    refine ⟨y, next, later, ?_, after⟩
    rw [Mailbox.replay_append, replayed]
    exact last

end Shows

end Picklist.Select
