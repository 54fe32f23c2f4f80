import Picklist.Proofs.Select.Move

/-!
# What a whole pump does

A pump takes one turn for each waiting answer and one more. The turns before the last empty the
queue from its head; the last finds it empty and notices whether the worker has ended. Of all the
answers only those to the latest search that brought choices can become the candidates.
-/

set_option autoImplicit false

namespace Picklist.Select

/-- The choices in the waiting answers to the latest search. -/
def Exchange.newOptions (x : Exchange) : List (List Choice) :=
  x.responses.filterMap fun a => if x.isLatest a.id then a.outcome.toOption else none

namespace Selector

variable {s : Selector} {x : Exchange}

/-- What one turn leaves of the exchange: the head of the queue goes, the worker and the latest
number stay, and an answer that is not awaited does not become so. -/
theorem readResponse_search (h : s.search = some x) :
    ∃ y, s.readResponse.2.search = some y ∧ y.responses = x.responses.tail ∧
      y.worker = x.worker ∧ y.latest = x.latest ∧ (y.inFlight = true → x.inFlight = true) := by
  have out := s.reading x h
  generalize s.readResponse = result at out ⊢
  generalize s.reads = new at out
  cases out with
  | empty queue =>
    refine ⟨x.noticeStop, rfl, ?_⟩
    unfold Exchange.noticeStop Exchange.markIdle
    split <;> simp [queue]
  | stale a rest queue => exact ⟨_, rfl, by simp [queue], rfl, rfl, id⟩
  | applied a rest options queue =>
    exact ⟨_, refilter_search _, by simp [queue], rfl, rfl, by simp⟩
  | rejected a rest error queue => exact ⟨_, rfl, by simp [queue], rfl, rfl, by simp⟩

/-- One turn writes the choices of the answer that it reads, if they are to the latest search. -/
theorem readResponse_candidates (h : s.search = some x) :
    ∃ head : Option (List Choice), s.readResponse.2.candidates = head.getD s.candidates ∧
      s.readResponse.1 = head.isSome ∧
      ∀ y : Exchange, y.responses = x.responses.tail → y.latest = x.latest →
        x.newOptions = head.toList ++ y.newOptions := by
  have sameTest {y : Exchange} (latest : y.latest = x.latest) : y.isLatest = x.isLatest := by
    funext id
    unfold Exchange.isLatest
    rw [latest]
  have out := s.reading x h
  generalize s.readResponse = result at out ⊢
  generalize s.reads = new at out
  cases out with
  | empty queue =>
    refine ⟨none, rfl, rfl, ?_⟩
    intro y responses latest
    simp [Exchange.newOptions, responses, queue]
  | stale a rest queue older =>
    refine ⟨none, rfl, rfl, ?_⟩
    intro y responses latest
    simp [Exchange.newOptions, responses, queue, older, sameTest latest]
  | applied a rest options queue newest ok =>
    refine ⟨some options, refilter_candidates _, rfl, ?_⟩
    intro y responses latest
    simp [Exchange.newOptions, responses, queue, newest, ok, Except.toOption, sameTest latest]
  | rejected a rest error queue newest failed =>
    refine ⟨none, rfl, rfl, ?_⟩
    intro y responses latest
    simp [Exchange.newOptions, responses, queue, newest, failed, Except.toOption, sameTest latest]

/-- Enough turns make the last choices for the latest search the candidates, if there are any, and
say so. -/
theorem readResponses_candidates (h : s.search = some x) {turns : Nat}
    (enough : x.responses.length ≤ turns) :
    (s.readResponses turns).2.candidates = x.newOptions.getLast?.getD s.candidates ∧
      (s.readResponses turns).1 = !x.newOptions.isEmpty := by
  induction turns generalizing s x with
  | zero =>
    have queue : x.responses = [] := List.eq_nil_of_length_eq_zero (by omega)
    simp [readResponses, Exchange.newOptions, queue]
  | succ turns ih =>
    obtain ⟨y, search, responses, -, latest, -⟩ := readResponse_search h
    obtain ⟨head, candidates, said, split⟩ := readResponse_candidates h
    have shorter : y.responses.length ≤ turns := by
      rw [responses, List.length_tail]
      omega
    obtain ⟨rest, later⟩ := ih search shorter
    have options := split y responses latest
    unfold readResponses
    dsimp only
    rw [rest, later, candidates, said, options]
    cases head with
    | none => simp
    | some first =>
      cases more : y.newOptions with
      | nil => simp
      | cons second others => simp [List.getLast?_cons]

/-- A turn of a pump reads the oldest answer. -/
theorem reads_reads (h : s.search = some x) : Log.reads s.reads = x.responses.head?.toList := by
  unfold reads responses
  rw [h]
  cases queue : x.responses <;> simp [Log.reads, queue]

/-- Enough turns of a pump read all answers in order. -/
theorem reads_manyReads (h : s.search = some x) {turns : Nat}
    (enough : x.responses.length ≤ turns) : Log.reads (s.manyReads turns) = x.responses := by
  induction turns generalizing s x with
  | zero => exact (List.eq_nil_of_length_eq_zero (by omega)).symm
  | succ turns ih =>
    obtain ⟨y, search, responses, -⟩ := readResponse_search h
    have shorter : y.responses.length ≤ turns := by
      rw [responses, List.length_tail]
      omega
    unfold manyReads
    rw [Log.reads_append, reads_reads h, ih search shorter, responses]
    cases x.responses <;> rfl

/-- An answer is awaited while the exchange says so. -/
theorem isAwaiting_eq (h : s.search = some x) : s.isAwaiting = x.inFlight := by
  simp [isAwaiting, h]

/-- A pump that finds a dead worker and no answer awaits nothing any more. -/
theorem readResponse_stopped (h : s.search = some x) (stopped : x.worker = .stopped)
    (queue : x.responses = []) : s.readResponse.2.isAwaiting = false := by
  simp [readResponse, h, queue, isAwaiting, Exchange.noticeStop, Exchange.markIdle, stopped]

/-- The turn after the last answer notices that the worker has ended. -/
theorem readResponses_stopped (h : s.search = some x) (stopped : x.worker = .stopped)
    {count : Nat} (exactly : x.responses.length = count) :
    (s.readResponses (count + 1)).2.isAwaiting = false := by
  induction count generalizing s x with
  | zero => exact readResponse_stopped h stopped (List.eq_nil_of_length_eq_zero exactly)
  | succ count ih =>
    obtain ⟨y, search, responses, worker, -⟩ := readResponse_search h
    have shorter : y.responses.length = count := by
      rw [responses, List.length_tail]
      omega
    exact ih search (worker.trans stopped) shorter

/-! ## The pump -/

/-- The answers of a select list are those of its exchange. -/
theorem responses_eq (h : s.search = some x) : s.responses = x.responses := by
  simp [responses, h]

/-- A pump makes the last choices for the latest search the candidates, if there are any, and says
so. -/
theorem pumpResponses_candidates (h : s.search = some x) :
    s.pumpResponses.2.candidates = x.newOptions.getLast?.getD s.candidates ∧
      s.pumpResponses.1 = !x.newOptions.isEmpty := by
  unfold pumpResponses
  rw [responses_eq h]
  exact readResponses_candidates h (Nat.le_succ _)

/-- A pump reads all answers in order. -/
theorem reads_pumpEvents (h : s.search = some x) : Log.reads s.pumpEvents = x.responses := by
  unfold pumpEvents
  rw [responses_eq h]
  exact reads_manyReads h (Nat.le_succ _)

/-- Once a pump has found the worker dead nothing is awaited any more. -/
theorem pumpResponses_stopped (h : s.search = some x) (stopped : x.worker = .stopped) :
    s.pumpResponses.2.isAwaiting = false := by
  unfold pumpResponses
  rw [responses_eq h]
  exact readResponses_stopped h stopped rfl

end Selector

end Picklist.Select
