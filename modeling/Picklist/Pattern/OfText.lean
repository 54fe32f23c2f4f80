import Picklist.Pattern.Token

/-!
# Reading a pattern

The tokens of a pattern's text are put together from left to right. Open groups wait on a stack; a
repetition takes the item before it, and switches hold until their group ends. Matching ignores
case unless the pattern says otherwise.

This is a reader of the common notation. It knows no classes by property of characters, no free
spacing and no bound on the nesting of groups, so searching takes the reader as a parameter.
-/

set_option autoImplicit false

namespace Picklist.Pattern

/-- The switches in force. -/
structure Flags where
  /-- Upper and lower case are the same. -/
  ignoreCase : Bool := true
  /-- Line boundaries count for the caret and the dollar sign. -/
  multiLine : Bool := false
  /-- The dot matches a line feed too. -/
  dotAll : Bool := false
  swapGreed : Bool := false
  deriving Repr, DecidableEq

/-- Sets one switch. -/
def Flags.set (flags : Flags) : Flag × Bool → Flags
  | (.ignoreCase, value) => { flags with ignoreCase := value }
  | (.multiLine, value) => { flags with multiLine := value }
  | (.dotAll, value) => { flags with dotAll := value }
  | (.swapGreed, value) => { flags with swapGreed := value }

/-- An item of a branch. Switches take a place there, so that no repetition can follow them. -/
inductive Item where
  | pattern (p : Pattern)
  /-- A place where switches were set. -/
  | switches
  deriving Repr, DecidableEq

/-- The pattern of an item; switches match the empty text. -/
def Item.pattern? : Item → Option Pattern
  | pattern p => some p
  | switches => none

/-- A group under construction. -/
structure Draft where
  /-- Finished branches, the last one first. -/
  branches : List Pattern := []
  /-- Items of the current branch, the last one first. -/
  items : List Item := []
  flags : Flags := {}
  deriving Repr, DecidableEq

namespace Draft

/-- Adds something that matches to the current branch. -/
def push (d : Draft) (p : Pattern) : Draft :=
  { d with items := .pattern p :: d.items }

/-- The current branch. -/
def branch (d : Draft) : Pattern :=
  sequence (d.items.reverse.filterMap Item.pattern?)

/-- Ends the current branch and starts another. -/
def nextBranch (d : Draft) : Draft :=
  { d with branches := d.branch :: d.branches, items := [] }

/-- The pattern of the group. -/
def finish (d : Draft) : Pattern :=
  choice (d.branch :: d.branches).reverse

end Draft

/-- A pattern under construction. -/
structure Assembly where
  /-- The innermost open group, at last the whole pattern. -/
  current : Draft := {}
  /-- The open groups around it, innermost first. -/
  around : List Draft := []
  /-- Names of groups used so far. -/
  names : List String := []
  deriving Repr, DecidableEq

namespace Assembly

/-- Adds something that matches. -/
def push (a : Assembly) (p : Pattern) : Assembly :=
  { a with current := a.current.push p }

/-- The test for a single character under the switches in force. -/
def charTest (flags : Flags) : Token → Option CharTest
  | .literal c => some (.literal c flags.ignoreCase)
  | .set s => some (.member (if flags.ignoreCase then s.ignoringCase else s))
  | .dot => some (if flags.dotAll then .anything else .notNewline)
  | _ => none

/-- Adds one token. -/
def step (a : Assembly) (token : Token) : Option Assembly :=
  let flags := a.current.flags
  match token with
  | .literal _ | .set _ | .dot => (charTest flags token).map fun test => a.push (.one test)
  | .caret => some (a.push (.assertion (if flags.multiLine then .lineStart else .textStart)))
  | .dollar => some (a.push (.assertion (if flags.multiLine then .lineEnd else .textEnd)))
  | .condition condition => some (a.push (.assertion condition))
  | .repetition least most greedy =>
    match a.current.items with
    | .pattern p :: items =>
      let body := Pattern.repeated p least most (greedy != flags.swapGreed)
      some { a with current := { a.current with items := .pattern body :: items } }
    | _ => none
  | .groupStart name changes =>
    if name.any a.names.contains then none
    else
      some {
        current := { flags := changes.foldl Flags.set flags }
        around := a.current :: a.around
        names := name.toList ++ a.names }
  | .groupEnd =>
    match a.around with
    | [] => none
    | outer :: around => some { a with current := outer.push a.current.finish, around }
  | .directive changes =>
    some { a with
      current := {
        a.current with
        items := .switches :: a.current.items
        flags := changes.foldl Flags.set flags } }
  | .bar => some { a with current := a.current.nextBranch }

/-- The finished pattern, unless a group is still open. -/
def finish? (a : Assembly) : Option Pattern :=
  if a.around.isEmpty then some a.current.finish else none

end Assembly

/-- A reader of patterns: what it makes of a text, if that is well formed for it. -/
abbrev Reader := List Char → Option Pattern

/-- The pattern that a text in the common notation denotes, if it is well formed. -/
def ofText? (cs : List Char) : Option Pattern := do
  let tokens ← tokens? cs
  let assembly ← tokens.foldlM Assembly.step {}
  assembly.finish?

end Picklist.Pattern
