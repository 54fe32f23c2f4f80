import Picklist.Pattern.CharSet

/-!
# Patterns

The syntax tree of a search pattern. Grouping and flags are resolved when a pattern is read, so a
tree says by itself what it matches.
-/

set_option autoImplicit false

namespace Picklist

namespace Pattern

/-- A test on a single character. -/
inductive CharTest where
  /-- One character; with `ignoreCase` any character that equals it up to case. -/
  | literal (c : Char) (ignoreCase : Bool)
  | member (s : CharSet)
  /-- Any character but a line feed. -/
  | notNewline
  | anything
  deriving Repr, DecidableEq, Inhabited

/-- Whether the character passes the test. -/
def CharTest.accepts : CharTest → Char → Bool
  | literal c true, d => Unicode.foldCase c == Unicode.foldCase d
  | literal c false, d => c == d
  | member s, d => s.contains d
  | notNewline, d => d != '\n'
  | anything, _ => true

/-- A condition on a place between two characters. -/
inductive Assertion where
  | textStart
  | textEnd
  | lineStart
  | lineEnd
  /-- A place with a word character on exactly one side. -/
  | wordBoundary
  /-- A place with word characters on both sides or on none. -/
  | notWordBoundary
  /-- A place before which no word character stands and after which one does. -/
  | wordStart
  /-- A place before which a word character stands and after which none does. -/
  | wordEnd
  /-- A place before which no word character stands. -/
  | wordStartHalf
  /-- A place after which no word character stands. -/
  | wordEndHalf
  deriving Repr, DecidableEq, Inhabited

end Pattern

/-- A search pattern. -/
inductive Pattern where
  | empty
  | one (test : Pattern.CharTest)
  /-- Matches the empty text at certain places. -/
  | assertion (condition : Pattern.Assertion)
  /-- Matches one pattern and then another. -/
  | cat (first second : Pattern)
  /-- Matches either pattern and prefers the first. -/
  | alt (first second : Pattern)
  /-- Matches `least` or more copies, `most` at the most, preferring many copies when `greedy`. -/
  | repeated (body : Pattern) (least : Nat) (most : Option Nat) (greedy : Bool)
  deriving Repr, DecidableEq, Inhabited

namespace Pattern

/-- One pattern after the other. -/
def sequence : List Pattern → Pattern
  | [] => empty
  | [p] => p
  | p :: ps => cat p (sequence ps)

/-- The first pattern that matches. -/
def choice : List Pattern → Pattern
  | [] => empty
  | [p] => p
  | p :: ps => alt p (choice ps)

/-- The pattern that matches exactly the given text, up to case. -/
def ofLiteral (cs : List Char) : Pattern :=
  sequence (cs.map fun c => one (.literal c true))

end Pattern

end Picklist
