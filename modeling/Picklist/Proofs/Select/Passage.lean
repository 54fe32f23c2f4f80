import Mathlib.Data.List.Nodup
import Picklist.Proofs.Select.Move

/-!
# How searches pass through the exchange

A search waits in the queue, is taken by the worker, is answered, and its answer is read. On this
way searches never overtake each other. So the numbers of the answers that were read, of those that
wait to be read, of the request at the worker and of those in the queue make one increasing
sequence, the passage. A step of the worker or a reading moves the border between its parts and may
drop numbers; only handing on adds one, at the end.

`Tracked` ties the exchange to the log in these terms, and holds at every point of a run on which
search numbers do not run out.
-/

set_option autoImplicit false

namespace Picklist.Select

namespace Exchange

/-- The request that the provider is answering. -/
def answering? (x : Exchange) : Option Request :=
  match x.worker with
  | .answering r => some r
  | _ => none

/-- The requests that have not been answered, oldest first. -/
def asked (x : Exchange) : List Request :=
  x.answering?.toList ++ x.unseen

/-- The searches on their way to the reader by number: answered, at the provider, not looked at. -/
def line (x : Exchange) : List Nat :=
  x.responses.map Response.id ++ x.asked.map Request.id

end Exchange

/-- The searches by number that were answered and read, and those that are on their way. -/
def passage (log : Log) (x : Exchange) : List Nat :=
  log.reads.map Response.id ++ x.line

/-! ## What a log says about numbers -/

/-- The searches in a log are numbered from one, and what was sent answers one of them. -/
structure Recorded (log : Log) : Prop where
  numbered : log.issued.map Request.id = List.range' 1 log.issued.length
  answered : ∀ a ∈ log.sent, ∃ r ∈ log.issued, a.id = r.id ∧ a.query = r.query

namespace Recorded

variable {log new : Log}

/-- The empty log is recorded. -/
theorem empty : Recorded [] where
  numbered := rfl
  answered := by simp [Log.sent]

/-- Events that neither issue nor send keep the record right. -/
theorem silent (h : Recorded log) (issued : new.issued = []) (sent : new.sent = []) :
    Recorded (log ++ new) := by
  constructor
  · rw [Log.issued_append_of_nil issued]
    exact h.numbered
  · rw [Log.issued_append_of_nil issued, Log.sent_append_of_nil sent]
    exact h.answered

/-- A search with the next number keeps the record right. -/
theorem issue (h : Recorded log) {r : Request} (next : r.id = log.issued.length + 1) :
    Recorded (log ++ [.issued r]) := by
  have issued : Log.issued (log ++ [.issued r]) = log.issued ++ [r] := Log.issued_append ..
  constructor
  · rw [issued, List.map_append, h.numbered, List.length_append, List.length_singleton,
      List.range'_concat, List.map_singleton, next, Nat.one_mul, Nat.add_comm]
  · rw [issued, Log.sent_append_of_nil rfl]
    intro a mem
    obtain ⟨q, hq, same⟩ := h.answered a mem
    exact ⟨q, List.mem_append_left _ hq, same⟩

/-- An answer to a search that was issued keeps the record right. -/
theorem send (h : Recorded log) {a : Response} {r : Request} (asked : r ∈ log.issued)
    (id : a.id = r.id) (query : a.query = r.query) : Recorded (log ++ [.sent a]) := by
  have sent : Log.sent (log ++ [.sent a]) = log.sent ++ [a] := Log.sent_append ..
  constructor
  · rw [Log.issued_append_of_nil rfl]
    exact h.numbered
  · rw [Log.issued_append_of_nil rfl, sent]
    intro b mem
    rcases List.mem_append.mp mem with old | new
    · exact h.answered b old
    · rw [List.mem_singleton] at new
      exact ⟨r, asked, by rw [new, id], by rw [new, query]⟩

/-- A search is known by its number. -/
theorem eq_of_id_eq (h : Recorded log) {r q : Request} (hr : r ∈ log.issued)
    (hq : q ∈ log.issued) (same : r.id = q.id) : r = q := by
  have distinct : (log.issued.map Request.id).Nodup := by
    rw [h.numbered]
    exact List.nodup_range'
  exact List.inj_on_of_nodup_map distinct hr hq same

end Recorded

/-! ## The exchange as the log tells it -/

/-- The exchange is in the state that the log tells. -/
structure Tracked (log : Log) (x : Exchange) : Prop extends Recorded log where
  /-- The latest number is that of the last search. -/
  latest : x.latest = log.issued.length
  /-- Searches do not overtake each other. -/
  ordered : (passage log x).Pairwise (· < ·)
  /-- The worker is only asked what was issued. -/
  requested : ∀ r ∈ x.asked, r ∈ log.issued
  /-- What was sent has been read or waits to be read. -/
  queued : log.sent = log.reads ++ x.responses
  /-- Only a waiting worker holds a request that it has not looked at. -/
  taken : x.received.isSome → x.worker = .waiting
  /-- The latest search is awaited while it is on its way. -/
  awaited : x.worker ≠ .stopped → (x.inFlight = true ↔ x.latest ∈ x.line)
  /-- The latest search is not lost. -/
  present : x.worker ≠ .stopped → x.latest ≠ 0 → x.latest ∈ passage log x

namespace Tracked

variable {log : Log} {x : Exchange}

/-! ### What follows at one point of a run -/

/-- A new exchange is tracked by the empty log. -/
theorem new : Tracked [] {} where
  toRecorded := .empty
  latest := rfl
  ordered := List.Pairwise.nil
  requested := by simp [Exchange.asked, Exchange.answering?, Exchange.unseen]
  queued := rfl
  taken := by simp
  awaited := by simp [Exchange.line, Exchange.asked, Exchange.answering?, Exchange.unseen]
  present := by simp

/-- The numbers of the searches of the log lie between one and the latest. -/
theorem id_bounds (h : Tracked log x) {r : Request} (mem : r ∈ log.issued) :
    1 ≤ r.id ∧ r.id ≤ x.latest := by
  have inRange : r.id ∈ List.range' 1 log.issued.length := by
    rw [← h.numbered]
    exact List.mem_map_of_mem mem
  rw [List.mem_range'_1, ← h.latest] at inRange
  omega

/-- The numbers on their way lie between one and the latest. -/
theorem passage_bounds (h : Tracked log x) {id : Nat} (mem : id ∈ passage log x) :
    1 ≤ id ∧ id ≤ x.latest := by
  -- read and waiting answers are together what was sent
  unfold passage Exchange.line at mem
  rw [← List.append_assoc, ← List.map_append, ← h.queued, List.mem_append] at mem
  rcases mem with mem | mem
  · obtain ⟨a, ha, rfl⟩ := List.mem_map.mp mem
    obtain ⟨r, hr, same, _⟩ := h.answered a ha
    rw [same]
    exact h.id_bounds hr
  · obtain ⟨r, hr, rfl⟩ := List.mem_map.mp mem
    exact h.id_bounds (h.requested r hr)

/-- The newest search has the latest number. -/
theorem newest_id (h : Tracked log x) {r : Request} (newest : log.newest? = some r) :
    r.id = x.latest := by
  have last : (log.issued.map Request.id).getLast? = some r.id := by
    rw [List.getLast?_map]
    exact congrArg (Option.map Request.id) newest
  rw [h.numbered, ← h.latest, List.getLast?_range'] at last
  split at last
  · cases last
  · rw [Option.some.injEq] at last
    omega

/-- If there is a latest number there is a newest search. -/
theorem exists_newest (h : Tracked log x) (some_issued : x.latest ≠ 0) :
    ∃ r, log.newest? = some r := by
  have nonempty : log.issued ≠ [] := by
    intro empty
    apply some_issued
    rw [h.latest, empty]
    rfl
  exact ⟨_, List.getLast?_eq_some_getLast nonempty⟩

/-- An answer is to the latest search when its number is that of the newest one. -/
theorem isLatest_iff (h : Tracked log x) (id : Nat) :
    x.isLatest id = true ↔ log.newest?.map Request.id = some id := by
  unfold Exchange.isLatest
  rw [Bool.and_eq_true, bne_iff_ne, beq_iff_eq]
  constructor
  · rintro ⟨some_issued, same⟩
    obtain ⟨r, newest⟩ := h.exists_newest some_issued
    rw [newest, same, ← h.newest_id newest]
    rfl
  · intro same
    obtain ⟨r, newest, rfl⟩ := Option.map_eq_some_iff.mp same
    have latest := h.newest_id newest
    have bounds := h.id_bounds (List.mem_of_getLast? newest)
    exact ⟨by omega, latest⟩

/-- An answer in the queue belongs to a search that was issued. -/
theorem issued_of_response (h : Tracked log x) {a : Response} (mem : a ∈ x.responses) :
    ∃ r ∈ log.issued, a.id = r.id ∧ a.query = r.query := by
  apply h.answered
  rw [h.queued]
  exact List.mem_append_right _ mem

/-- A waiting answer is to the latest search when it has the latest number. -/
theorem isLatest_response (h : Tracked log x) {a : Response} (mem : a ∈ x.responses) :
    x.isLatest a.id = true ↔ a.id = x.latest := by
  obtain ⟨r, hr, same, _⟩ := h.issued_of_response mem
  have bounds := h.id_bounds hr
  unfold Exchange.isLatest
  rw [Bool.and_eq_true, bne_iff_ne, beq_iff_eq]
  omega

/-- Events that are no search, no sending and no reading do not matter. -/
theorem silent (h : Tracked log x) {new : Log} (issued : new.issued = [])
    (reads : new.reads = []) (sent : new.sent = []) : Tracked (log ++ new) x := by
  have path : passage (log ++ new) x = passage log x := by
    unfold passage
    rw [Log.reads_append_of_nil reads]
  exact
    { toRecorded := h.toRecorded.silent issued sent
      latest := by rw [Log.issued_append_of_nil issued]; exact h.latest
      ordered := by rw [path]; exact h.ordered
      requested := by rw [Log.issued_append_of_nil issued]; exact h.requested
      queued := by
        rw [Log.sent_append_of_nil sent, Log.reads_append_of_nil reads]
        exact h.queued
      taken := h.taken
      awaited := h.awaited
      present := by rw [path]; exact h.present }

/-! ### Handing on -/

section Issue

variable (query : String) (previous : List Choice)

/-- As long as numbers do not run out the next one continues the numbering. -/
theorem nextRequest_id (h : Tracked log x) (few : log.issued.length < Exchange.lastId) :
    (x.nextRequest query previous).id = x.latest + 1 := by
  show min (x.latest + 1) Exchange.lastId = x.latest + 1
  rw [h.latest]
  omega

/-- A search for a dead worker is counted and lost. -/
theorem issue_stopped (h : Tracked log x) {r : Request} (next : r.id = x.latest + 1)
    (stopped : x.worker = .stopped) :
    Tracked (log ++ [.issued r]) { x with latest := r.id, inFlight := false } := by
  have issued : Log.issued (log ++ [.issued r]) = log.issued ++ [r] := Log.issued_append ..
  have reads : Log.reads (log ++ [.issued r]) = log.reads := Log.reads_append_of_nil rfl
  refine
    { toRecorded := h.toRecorded.issue (h.latest ▸ next)
      latest := ?_
      ordered := ?_
      requested := ?_
      queued := ?_
      taken := h.taken
      awaited := fun alive => absurd stopped alive
      present := fun alive => absurd stopped alive }
  · rw [issued, List.length_append, ← h.latest]
    exact next
  · unfold passage
    rw [reads]
    exact h.ordered
  · rw [issued]
    intro q mem
    exact List.mem_append_left _ (h.requested q mem)
  · rw [Log.sent_append_of_nil rfl, reads]
    exact h.queued

/-- A search for a living worker is counted and queued. -/
theorem issue_alive (h : Tracked log x) {r : Request} (next : r.id = x.latest + 1) :
    Tracked (log ++ [.issued r])
      { x with latest := r.id, inFlight := true, requests := x.requests ++ [r] } := by
  have issued : Log.issued (log ++ [.issued r]) = log.issued ++ [r] := Log.issued_append ..
  have reads : Log.reads (log ++ [.issued r]) = log.reads := Log.reads_append_of_nil rfl
  have asked : Exchange.asked
      { x with latest := r.id, inFlight := true, requests := x.requests ++ [r] } =
      x.asked ++ [r] := by
    show x.answering?.toList ++ (x.received.toList ++ (x.requests ++ [r])) = _
    rw [← List.append_assoc x.received.toList, ← List.append_assoc]
    rfl
  have line : Exchange.line
      { x with latest := r.id, inFlight := true, requests := x.requests ++ [r] } =
      x.line ++ [r.id] := by
    unfold Exchange.line
    rw [asked, List.map_append, ← List.append_assoc]
    rfl
  have path : passage (log ++ [.issued r])
      { x with latest := r.id, inFlight := true, requests := x.requests ++ [r] } =
      passage log x ++ [r.id] := by
    unfold passage
    rw [reads, line, List.append_assoc]
  refine
    { toRecorded := h.toRecorded.issue (h.latest ▸ next)
      latest := ?latest
      ordered := ?ordered
      requested := ?requested
      queued := ?queued
      taken := h.taken
      awaited := ?awaited
      present := ?present }
  case latest =>
    rw [issued, List.length_append, ← h.latest]
    exact next
  case ordered =>
    -- the new number is above all that are in the passage
    rw [path, List.pairwise_append]
    refine ⟨h.ordered, List.pairwise_singleton _ _, ?_⟩
    intro id mem new isNew
    have bounds := h.passage_bounds mem
    rw [List.mem_singleton] at isNew
    omega
  case requested =>
    rw [asked, issued]
    intro q mem
    rcases List.mem_append.mp mem with old | new
    · exact List.mem_append_left _ (h.requested q old)
    · exact List.mem_append_right _ new
  case queued =>
    rw [Log.sent_append_of_nil rfl, reads]
    exact h.queued
  case awaited =>
    rw [line]
    simp
  case present =>
    rw [path]
    simp

/-- Issuing keeps track, as long as there are numbers. -/
theorem issue (h : Tracked log x) (few : log.issued.length < Exchange.lastId) :
    Tracked (log ++ [.issued (x.nextRequest query previous)]) (x.issue query previous) := by
  have next := h.nextRequest_id query previous few
  unfold Exchange.issue
  split
  · rename_i stopped
    exact h.issue_stopped next stopped
  · exact h.issue_alive next

end Issue

/-! ### The worker -/

/-- A worker may hand a request on from one of its places to the next. -/
theorem rearrange (h : Tracked log x) {y : Exchange} (latest : y.latest = x.latest)
    (flag : y.inFlight = x.inFlight) (responses : y.responses = x.responses)
    (asked : y.asked = x.asked) (alive : x.worker ≠ .stopped)
    (taken : y.received.isSome → y.worker = .waiting) : Tracked log y := by
  have line : y.line = x.line := by
    unfold Exchange.line
    rw [asked, responses]
  have path : passage log y = passage log x := by
    unfold passage
    rw [line]
  exact
    { toRecorded := h.toRecorded
      latest := by rw [latest]; exact h.latest
      ordered := by rw [path]; exact h.ordered
      requested := by rw [asked]; exact h.requested
      queued := by rw [responses]; exact h.queued
      taken := taken
      awaited := fun _ => by rw [flag, latest, line]; exact h.awaited alive
      present := fun _ => by rw [path, latest]; exact h.present alive }

/-- Passing over an older request keeps track. -/
theorem skip (h : Tracked log x) {r : Request} (waiting : x.worker = .waiting)
    (taken : x.received = some r) (older : r.id ≠ x.latest) :
    Tracked log { x with received := none } := by
  have alive : x.worker ≠ .stopped := by simp [waiting]
  have asked : x.asked = r :: Exchange.asked { x with received := none } := by
    simp [Exchange.asked, Exchange.answering?, Exchange.unseen, waiting, taken]
  have line : x.line.Perm (r.id :: Exchange.line { x with received := none }) := by
    unfold Exchange.line
    rw [asked, List.map_cons]
    exact List.perm_middle
  -- only the number of the skipped request leaves the line, and it is not the latest
  have kept : x.latest ∈ x.line ↔ x.latest ∈ Exchange.line { x with received := none } := by
    rw [line.mem_iff, List.mem_cons]
    exact or_iff_right (Ne.symm older)
  have shorter : (Exchange.line { x with received := none }).Sublist x.line := by
    unfold Exchange.line
    rw [asked, List.map_cons]
    exact (List.sublist_cons_self _ _).append_left _
  refine
    { toRecorded := h.toRecorded
      latest := h.latest
      ordered := h.ordered.sublist (shorter.append_left _)
      requested := ?_
      queued := h.queued
      taken := by simp
      awaited := fun _ => (h.awaited alive).trans kept
      present := ?_ }
  · intro q mem
    apply h.requested
    rw [asked]
    exact List.mem_cons_of_mem r mem
  · intro _ some_issued
    have before := h.present alive some_issued
    unfold passage at before ⊢
    rw [List.mem_append] at before ⊢
    exact before.imp id kept.mp

/-- Sending an answer keeps track. -/
theorem send (h : Tracked log x) {r : Request} (outcome : Except SearchError (List Choice))
    (busy : x.worker = .answering r) :
    Tracked (log ++ [.sent ⟨r.id, r.query, outcome⟩])
      { x with worker := .waiting, responses := x.responses ++ [⟨r.id, r.query, outcome⟩] } := by
  have alive : x.worker ≠ .stopped := by simp [busy]
  have free : x.received = none := by
    by_contra held
    have waiting := h.taken (Option.isSome_iff_ne_none.mpr held)
    rw [busy] at waiting
    cases waiting
  have asked : x.asked = r :: x.requests := by
    simp [Exchange.asked, Exchange.answering?, Exchange.unseen, busy, free]
  have issued : r ∈ log.issued := by
    apply h.requested
    rw [asked]
    exact List.mem_cons_self
  -- the number moves over to the answers and stays where it is in the line
  have line : Exchange.line
      { x with worker := .waiting, responses := x.responses ++ [⟨r.id, r.query, outcome⟩] } =
      x.line := by
    simp [Exchange.line, asked]
    simp [Exchange.asked, Exchange.answering?, Exchange.unseen, free]
  have path : passage (log ++ [.sent ⟨r.id, r.query, outcome⟩])
      { x with worker := .waiting, responses := x.responses ++ [⟨r.id, r.query, outcome⟩] } =
      passage log x := by
    unfold passage
    rw [line, Log.reads_append_of_nil rfl]
  refine
    { toRecorded := h.toRecorded.send issued rfl rfl
      latest := ?_
      ordered := by rw [path]; exact h.ordered
      requested := ?_
      queued := ?_
      taken := by simp
      awaited := fun _ => by rw [line]; exact h.awaited alive
      present := fun _ => by rw [path]; exact h.present alive }
  · rw [Log.issued_append_of_nil rfl]
    exact h.latest
  · rw [Log.issued_append_of_nil rfl]
    intro q mem
    apply h.requested
    rw [asked]
    have waits : q ∈ x.requests := by
      simpa [Exchange.asked, Exchange.answering?, Exchange.unseen, free] using mem
    exact List.mem_cons_of_mem r waits
  · rw [Log.sent_append, Log.reads_append_of_nil rfl, h.queued, List.append_assoc]
    rfl

/-- The end of the worker keeps track. -/
theorem stop (h : Tracked log x) : Tracked log x.stop := by
  have asked : x.stop.asked = [] := rfl
  have shorter : x.stop.line.Sublist x.line := by
    unfold Exchange.line
    rw [asked]
    exact (List.nil_sublist _).append_left _
  exact
    { toRecorded := h.toRecorded
      latest := h.latest
      ordered := h.ordered.sublist (shorter.append_left _)
      requested := fun r mem => by rw [asked] at mem; cases mem
      queued := h.queued
      taken := by simp [Exchange.stop]
      awaited := fun alive => absurd rfl alive
      present := fun alive => absurd rfl alive }

/-- The worker keeps the exchange in the state that the log tells. -/
theorem turn (h : Tracked log x) {y : Exchange} {new : Log} (out : x.Turn new y) :
    Tracked (log ++ new) y := by
  cases out with
  | idle => simpa using h
  | received r rest waiting free queue =>
    have moved : Tracked log { x with received := some r, requests := rest } := by
      refine h.rearrange rfl rfl rfl ?_ ?_ (fun _ => waiting)
      · simp [Exchange.asked, Exchange.answering?, Exchange.unseen, waiting, free, queue]
      · simp [waiting]
    exact moved.silent rfl rfl rfl
  | called r waiting taken latest =>
    have moved : Tracked log { x with received := none, worker := .answering r } := by
      refine h.rearrange rfl rfl rfl ?_ ?_ (by simp)
      · simp [Exchange.asked, Exchange.answering?, Exchange.unseen, waiting, taken]
      · simp [waiting]
    exact moved.silent rfl rfl rfl
  | skipped r waiting taken older => exact (h.skip waiting taken older).silent rfl rfl rfl
  | answered r outcome busy => exact h.send outcome busy
  | stopped => exact h.stop.silent rfl rfl rfl

/-! ### Reading -/

/-- The oldest answer stands first in line. -/
theorem line_cons {a : Response} {rest : List Response} (queue : x.responses = a :: rest)
    (flag : Bool) :
    x.line = a.id :: Exchange.line { x with responses := rest, inFlight := flag } := by
  unfold Exchange.line
  rw [queue]
  rfl

/-- An answer may be read, provided that the flag is right afterwards. -/
theorem read (h : Tracked log x) {a : Response} {rest : List Response}
    (queue : x.responses = a :: rest) (s : Selector) (flag : Bool)
    (awaited : x.worker ≠ .stopped →
      (flag = true ↔ x.latest ∈ Exchange.line { x with responses := rest, inFlight := flag })) :
    Tracked (log ++ [.read a s]) { x with responses := rest, inFlight := flag } := by
  have reads : Log.reads (log ++ [.read a s]) = log.reads ++ [a] := Log.reads_append ..
  have path : passage (log ++ [.read a s]) { x with responses := rest, inFlight := flag } =
      passage log x := by
    unfold passage
    rw [line_cons queue flag, reads, List.map_append, List.append_assoc]
    rfl
  exact
    { toRecorded := h.toRecorded.silent rfl rfl
      latest := by rw [Log.issued_append_of_nil rfl]; exact h.latest
      ordered := by rw [path]; exact h.ordered
      requested := by rw [Log.issued_append_of_nil rfl]; exact h.requested
      queued := by
        rw [Log.sent_append_of_nil rfl, h.queued, queue, reads, List.append_assoc]
        rfl
      taken := h.taken
      awaited := awaited
      present := by rw [path]; exact h.present }

/-- Reading an answer that is not the latest keeps track. -/
theorem read_stale (h : Tracked log x) {a : Response} {rest : List Response}
    (queue : x.responses = a :: rest) (s : Selector) (older : x.isLatest a.id = false) :
    Tracked (log ++ [.read a s]) { x with responses := rest } := by
  refine h.read queue s x.inFlight ?_
  intro alive
  have different : x.latest ≠ a.id := by
    intro same
    have latest := (h.isLatest_response (by simp [queue])).mpr same.symm
    rw [older] at latest
    cases latest
  rw [h.awaited alive, line_cons queue x.inFlight, List.mem_cons]
  exact or_iff_right different

/-- Reading the latest answer keeps track. -/
theorem read_latest (h : Tracked log x) {a : Response} {rest : List Response}
    (queue : x.responses = a :: rest) (s : Selector) (latest : x.isLatest a.id = true) :
    Tracked (log ++ [.read a s]) { x with responses := rest, inFlight := false } := by
  refine h.read queue s false ?_
  intro _
  have same := (h.isLatest_response (by simp [queue])).mp latest
  have ordered := (List.pairwise_append.mp h.ordered).2.1
  rw [line_cons queue false, List.pairwise_cons] at ordered
  constructor
  · intro absurdity
    cases absurdity
  · -- the latest number stood at the head, and all behind it are above it
    intro mem
    have behind := ordered.1 _ mem
    omega

/-- Noticing the end of the worker keeps track. -/
theorem noticeStop (h : Tracked log x) : Tracked log x.noticeStop := by
  unfold Exchange.noticeStop Exchange.markIdle
  split
  · rename_i stopped
    exact
      { h with
        awaited := fun alive => absurd stopped alive
        present := fun alive => absurd stopped alive }
  · exact h

/-- A turn of a pump leaves the exchange in the state that the log tells. -/
theorem reading (h : Tracked log x) {s : Selector} {new : Log} {result : Bool × Selector}
    (out : s.Reading x new result) :
    ∃ y, result.2.search = some y ∧ Tracked (log ++ new) y := by
  cases out with
  | empty queue => exact ⟨_, rfl, h.noticeStop.silent rfl rfl rfl⟩
  | stale a rest queue older => exact ⟨_, rfl, h.read_stale queue s older⟩
  | applied a rest options queue latest ok =>
    exact ⟨_, Selector.refilter_search _, h.read_latest queue s latest⟩
  | rejected a rest error queue latest failed => exact ⟨_, rfl, h.read_latest queue s latest⟩

/-! ### Whole runs -/

/-- Every move keeps track, as long as there are numbers. -/
theorem move {s t : Selector} {new : Log} (h : Tracked log x) (search : s.search = some x)
    (move : Move s new t) (few : (Log.issued (log ++ new)).length < Exchange.lastId) :
    ∃ y, t.search = some y ∧ Tracked (log ++ new) y := by
  have fewer : log.issued.length < Exchange.lastId := Log.issued_length_lt few rfl
  cases move with
  | quiet same => exact ⟨x, same.search.trans search, h.silent rfl rfl rfl⟩
  | replace candidates =>
    exact ⟨x, (Selector.refilter_search _).trans search, h.silent rfl rfl rfl⟩
  | retype query now => exact ⟨x, (Selector.refilter_search _).trans search, h.silent rfl rfl rfl⟩
  | handOn found out =>
    obtain rfl : x = _ := Option.some.inj (search.symm.trans found)
    cases out with
    | issued held waits due => exact ⟨_, rfl, h.issue held.value s.candidates fewer⟩
    | early waits => exact ⟨x, search, h.silent rfl rfl rfl⟩
  | read found _ out =>
    obtain rfl : x = _ := Option.some.inj (search.symm.trans found)
    exact h.reading out
  | work found out =>
    obtain rfl : x = _ := Option.some.inj (search.symm.trans found)
    exact ⟨_, rfl, h.turn out⟩

/-- After moves that start with a new exchange, the exchange is in the state that the log tells. -/
theorem of_moves {s t : Selector} (moves : Moves s log t) (fresh : s.search = some {})
    (few : log.issued.length < Exchange.lastId) :
    ∃ y, t.search = some y ∧ Tracked log y := by
  induction moves with
  | refl => exact ⟨{}, fresh, .new⟩
  | @tail t u log new _ move ih =>
    obtain ⟨x, search, tracked⟩ := ih (Log.issued_length_lt few rfl)
    exact tracked.move search move few

/-- At every event of a log the exchange was in the state that the log up to there tells. -/
theorem at_event {s t : Selector} {earlier later : Log} {e : SearchEvent} (moves : Moves s log t)
    (fresh : s.search = some {}) (few : log.issued.length < Exchange.lastId)
    (split : log = earlier ++ e :: later) :
    ∃ u v y, u.search = some y ∧ Tracked earlier y ∧ Move u [e] v ∧ Moves v later t := by
  obtain ⟨u, v, before, here, after⟩ := moves.at_event split
  obtain ⟨y, search, tracked⟩ := of_moves before fresh (Log.issued_length_lt few split)
  exact ⟨u, v, y, search, tracked, here, after⟩

end Tracked

end Picklist.Select
