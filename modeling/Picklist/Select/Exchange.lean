import Picklist.Choice

/-!
# The exchange with the search worker

Searches are handed to a worker through a queue, and its answers come back through another. Every
search gets a new number. The worker takes the requests in order and passes over those that are no
longer the latest; whoever reads the answers does the same. So only the answer to the latest search
ever counts, and the worker's queue behaves like a box for a single letter.
-/

set_option autoImplicit false

namespace Picklist.Select

/-- Why a search gave no choices. -/
inductive SearchError where
  /-- The provider ran and turned the query down. -/
  | rejected (message : String)
  deriving Repr, DecidableEq, Inhabited

/-- The words of a search error. -/
def SearchError.message : SearchError → String
  | rejected message => "search provider failed: " ++ message

/-- A search handed to the worker. -/
structure Request where
  id : Nat
  query : String
  /-- The candidates at the time of the search. -/
  previous : List Choice
  deriving Repr, DecidableEq, Inhabited

/-- What the worker sends back. -/
structure Response where
  id : Nat
  query : String
  /-- The new candidates, or why there are none. -/
  outcome : Except SearchError (List Choice)

/-- What the worker is doing. -/
inductive Worker where
  | waiting
  /-- The provider is answering a request. -/
  | answering (request : Request)
  /-- It has ended and takes no more requests. -/
  | stopped
  deriving Repr, DecidableEq, Inhabited

/-- Both ends of the two queues, and the worker between them. -/
structure Exchange where
  /-- The number of the latest search, zero before the first. -/
  latest : Nat := 0
  /-- Whether the answer to the latest search is awaited. -/
  inFlight : Bool := false
  /-- Requests that the worker has not reached, oldest first. -/
  requests : List Request := []
  worker : Worker := .waiting
  /-- The request that a waiting worker has taken and not looked at yet. -/
  received : Option Request := none
  /-- Answers that have not been read, oldest first. -/
  responses : List Response := []

namespace Exchange

/-- Search numbers are 64-bit words and stay at the largest one. -/
def lastId : Nat := Nat.pow 2 64 - 1

/-- The search that is handed to the worker next. -/
def nextRequest (x : Exchange) (query : String) (previous : List Choice) : Request where
  id := min (x.latest + 1) lastId
  query := query
  previous := previous

/-- Hands a search to the worker. It is awaited unless the worker has ended. -/
def issue (x : Exchange) (query : String) (previous : List Choice) : Exchange :=
  let request := x.nextRequest query previous
  match x.worker with
  | .stopped => { x with latest := request.id, inFlight := false }
  | _ =>
    { x with latest := request.id, inFlight := true, requests := x.requests ++ [request] }

/-- Whether an answer with the number is the one to the latest search. -/
def isLatest (x : Exchange) (id : Nat) : Bool :=
  x.latest != 0 && id == x.latest

/-- The search with the number has been answered; the latest one is no longer awaited then. -/
def complete (x : Exchange) (id : Nat) : Exchange :=
  if x.isLatest id then { x with inFlight := false } else x

/-- Nothing is awaited any more. -/
def markIdle (x : Exchange) : Exchange :=
  { x with inFlight := false }

/-- The end of the worker has been noticed: nothing is awaited from a worker that has ended. -/
def noticeStop (x : Exchange) : Exchange :=
  match x.worker with
  | .stopped => x.markIdle
  | _ => x

/-- The requests that the worker has not looked at: the one that it has taken and those that it has
not reached. -/
def unseen (x : Exchange) : List Request :=
  x.received.toList ++ x.requests

/-- A waiting worker takes the oldest request. -/
def receive (x : Exchange) : Exchange :=
  match x.worker, x.received, x.requests with
  | .waiting, none, r :: rest => { x with received := some r, requests := rest }
  | _, _, _ => x

/-- The worker looks at the request that it has taken: it starts on the latest one and passes over
another. -/
def examine (x : Exchange) : Exchange :=
  match x.worker, x.received with
  | .waiting, some r =>
    if r.id = x.latest then { x with received := none, worker := .answering r }
    else { x with received := none }
  | _, _ => x

/-- A waiting worker takes requests until it has started on one or none is left. -/
def advance (x : Exchange) : Exchange :=
  match x.worker with
  | .waiting =>
    match x.unseen.dropWhile (·.id != x.latest) with
    | r :: rest => { x with received := none, requests := rest, worker := .answering r }
    | [] => { x with received := none, requests := [] }
  | _ => x

/-- The provider answers the request in progress. -/
def answer (x : Exchange) (outcome : Except SearchError (List Choice)) : Exchange :=
  match x.worker with
  | .answering r =>
    { x with worker := .waiting, responses := x.responses ++ [⟨r.id, r.query, outcome⟩] }
  | _ => x

/-- The worker ends; the requests it has not answered are lost, the answers it has sent are not. -/
def stop (x : Exchange) : Exchange :=
  { x with worker := .stopped, received := none, requests := [] }

end Exchange

end Picklist.Select
