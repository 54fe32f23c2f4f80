import Picklist.Pattern.Basic
import Picklist.Text.Span

/-!
# Matching

A pattern maps places in a text to the places where a match starting there can end, in order of
preference: an earlier alternative before a later one, more copies before fewer when a repetition
is greedy. A place that can be reached in several ways counts where it comes first, for what follows
it is the same each time. A round of a repetition that does not move forward ends the repetition.
The match at a place is the most preferred one, and the matches of a text are found from left to
right without overlap.
-/

set_option autoImplicit false

namespace Picklist.Pattern

/-- A place in a text: how many characters stand before it, the last of them, and what follows. -/
structure Cursor where
  /-- Number of characters before the place. -/
  index : Nat
  /-- The character before the place, none at the start of the text. -/
  before : Option Char
  rest : List Char
  deriving Repr, DecidableEq, Inhabited

/-- Whether a word character stands before the place. -/
def Cursor.wordBefore (p : Cursor) : Bool :=
  p.before.any Unicode.isWordCharacter

/-- Whether a word character stands after the place. -/
def Cursor.wordAfter (p : Cursor) : Bool :=
  p.rest.head?.any Unicode.isWordCharacter

/-- Whether the condition holds at the place. -/
def Assertion.holds : Assertion → Cursor → Bool
  | textStart, p => p.before.isNone
  | textEnd, p => p.rest.isEmpty
  | lineStart, p => p.before.all (· == '\n')
  | lineEnd, p => p.rest.head?.all (· == '\n')
  | wordBoundary, p => p.wordBefore != p.wordAfter
  | notWordBoundary, p => p.wordBefore == p.wordAfter
  | wordStart, p => !p.wordBefore && p.wordAfter
  | wordEnd, p => p.wordBefore && !p.wordAfter
  | wordStartHalf, p => !p.wordBefore
  | wordEndHalf, p => !p.wordAfter

/-- Maps places, in order of preference, to the places reachable from them, in order of
preference. -/
abbrev Step := List Cursor → List Cursor

namespace Step

/-- Adds a place to the end of a list unless it is there already. -/
def add (found : List Cursor) (p : Cursor) : List Cursor :=
  if found.any (·.index == p.index) then found else found ++ [p]

/-- Each place once, at its first occurrence. -/
def distinct (places : List Cursor) : List Cursor :=
  places.foldl add []

/-- Stays where it is. -/
def stay : Step := id

/-- One step, then another. -/
def andThen (f g : Step) : Step := fun places => g (f places)

/-- Either step; the places of the first are preferred. -/
def orElse (f g : Step) : Step := fun places =>
  distinct (places.flatMap fun p => f [p] ++ g [p])

/-- The step or none; a greedy choice prefers the step. -/
def optional (greedy : Bool) (f : Step) : Step :=
  if greedy then orElse f stay else orElse stay f

/-- The step a fixed number of times. -/
def times (f : Step) : Nat → Step
  | 0 => stay
  | n + 1 => andThen f (times f n)

/-- The step at most a fixed number of times. -/
def upTo (greedy : Bool) (f : Step) : Nat → Step
  | 0 => stay
  | n + 1 => optional greedy (andThen f (upTo greedy f n))

/-- Adds to `found` the places where a repetition that has reached `p` can end: `p` itself, and what
further rounds reach that move forward. -/
def rounds (greedy : Bool) (f : Step) (p : Cursor) (found : List Cursor) : List Cursor :=
  if found.any (·.index == p.index) then found
  else
    let onward := fun (found : List Cursor) =>
      (f [p]).foldl (fun acc q =>
        if _h : q.rest.length < p.rest.length then rounds greedy f q acc else acc)
        found
    if greedy then add (onward found) p else onward (add found p)
termination_by p.rest.length

/-- Adds to `found` the places where a repetition that starts at `p` can end. A first round that
does not move forward ends it. -/
def firstRound (greedy : Bool) (f : Step) (found : List Cursor) (p : Cursor) : List Cursor :=
  (f [p]).foldl
    (fun found q =>
      if q.rest.length < p.rest.length then rounds greedy f q found else add found q)
    found

/-- The step once or more often. -/
def oneOrMore (greedy : Bool) (f : Step) : Step := fun places =>
  places.foldl (firstRound greedy f) []

/-- The step `least` times or more often. -/
def atLeast (greedy : Bool) (f : Step) : Nat → Step
  | 0 => optional greedy (oneOrMore greedy f)
  | n + 1 => andThen (times f n) (oneOrMore greedy f)

end Step

/-- The place behind the next character, if that passes the test. -/
def Cursor.advance? (p : Cursor) (accepts : Char → Bool) : Option Cursor :=
  match p.rest with
  | [] => none
  | c :: rest => if accepts c then some ⟨p.index + 1, some c, rest⟩ else none

open Step in
/-- The places where matches that start at the given places can end, in order of preference. -/
def reach : Pattern → Step
  | empty => stay
  | one test => fun places => places.filterMap (·.advance? test.accepts)
  | assertion condition => fun places => places.filter condition.holds
  | cat first second => andThen first.reach second.reach
  | alt first second => orElse first.reach second.reach
  | repeated body least (some most) greedy =>
    andThen (times body.reach least) (upTo greedy body.reach (most - least))
  | repeated body least none greedy => atLeast greedy body.reach least

/-- The places where a match that starts at a place can end, in order of preference. -/
def ends (pattern : Pattern) (p : Cursor) : List Cursor := pattern.reach [p]

/-- Whether the pattern matches somewhere from the place on. -/
def matchesFrom (pattern : Pattern) (index : Nat) (before : Option Char) : List Char → Bool
  | [] => !(pattern.ends ⟨index, before, []⟩).isEmpty
  | c :: rest =>
    !(pattern.ends ⟨index, before, c :: rest⟩).isEmpty
      || matchesFrom pattern (index + 1) (some c) rest

/-- Whether the pattern matches somewhere in the text. -/
def matchesIn (pattern : Pattern) (cs : List Char) : Bool :=
  pattern.matchesFrom 0 none cs

/-- The non-empty matches from the place on. -/
def spansFrom (pattern : Pattern) (index : Nat) (before : Option Char) : List Char → List Text.Span
  | [] => []
  | c :: rest =>
    match (pattern.ends ⟨index, before, c :: rest⟩).head? with
    | some q =>
      if _h : q.rest.length < (c :: rest).length then
        ⟨index, q.index⟩ :: spansFrom pattern q.index q.before q.rest
      else spansFrom pattern (index + 1) (some c) rest
    | none => spansFrom pattern (index + 1) (some c) rest
termination_by cs => cs.length
decreasing_by all_goals (simp only [List.length_cons] at *; omega)

/-- The non-empty matches in the text, from left to right and without overlap. -/
def spans (pattern : Pattern) (cs : List Char) : List Text.Span :=
  pattern.spansFrom 0 none cs

end Picklist.Pattern
