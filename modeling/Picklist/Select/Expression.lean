import Picklist.Choice
import Picklist.Pattern.Literal
import Picklist.Pattern.Match
import Picklist.Pattern.OfText
import Picklist.Text.Normalize

/-!
# Search expressions

A query becomes an expression that texts are matched against. An empty query puts no constraint on
them. Any other query stands for itself, unless a hook writes a pattern for it; a hook's text that
is no pattern is passed over and the query stands for itself again. What is a pattern is up to the
reader of patterns.

Matches are found in the normalized text. To show them in a label, every normalized character
remembers the stretch of the label it came from; marks that vanish belong to the character before.
-/

set_option autoImplicit false

namespace Picklist.Select

open Text

/-- What texts are matched against; no pattern means no constraint. -/
structure Expression where
  pattern : Option Pattern := none
  deriving Repr, DecidableEq, Inhabited

/-- A normalized character with the stretch of the source text that it came from. -/
structure Origin where
  char : Char
  source : Span
  deriving Repr, DecidableEq

namespace Origin

/-- Lets the last origin of a list reach up to the given position. -/
def extendLast (stop : Nat) : List Origin → List Origin
  | [] => []
  | [o] => [{ o with source := { o.source with stop } }]
  | o :: os => o :: extendLast stop os

/-- Adds the source character at the given position to the origins of the characters before it. -/
def add (origins : List Origin) (c : Char) (position : Nat) : List Origin :=
  match stripMarks [c] with
  | [] => extendLast (position + 1) origins
  | folded => origins ++ folded.map (⟨·, ⟨position, position + 1⟩⟩)

/-- The origins of the folded characters of a text. -/
def ofText (cs : List Char) : List Origin :=
  cs.zipIdx.foldl (fun origins (c, position) => add origins c position) []

/-- The stretch of the source that a stretch of the folded text came from. -/
def sourceSpan? (origins : List Origin) (span : Span) : Option Span := do
  let first ← origins[span.start]?
  let last ← origins[span.stop - 1]?
  return ⟨first.source.start, last.source.stop⟩

end Origin

namespace Expression

/-- The expression for a normalized query. A hook turns the query into the text of a pattern. -/
def compile (query : String) (hook : Option (String → String))
    (read : Pattern.Reader := Pattern.ofText?) : Expression :=
  if query.isEmpty then {}
  else
    let literal := Pattern.escapeString query
    let source := match hook with
      | some write => write query
      | none => literal
    { pattern := read source.toList <|> read literal.toList }

/-- Whether the expression puts no constraint on texts. -/
def isEmpty (e : Expression) : Bool := e.pattern.isNone

/-- Whether the text matches. -/
def matchesText (e : Expression) (cs : List Char) : Bool :=
  e.pattern.all (·.matchesIn cs)

/-- The non-empty matches in a text. -/
def spans (e : Expression) (cs : List Char) : List Span :=
  match e.pattern with
  | some p => p.spans cs
  | none => []

/-- The stretches of a label that the matches in its normalized text came from. -/
def labelSpans (e : Expression) (fold : Bool) (cs : List Char) : List Span :=
  if !fold || isAscii cs then e.spans cs
  else
    let origins := Origin.ofText cs
    (e.spans (origins.map Origin.char)).filterMap (Origin.sourceSpan? origins)

/-- The byte ranges of the non-empty matches in a text. -/
def matchRanges (e : Expression) (text : String) : List (Nat × Nat) :=
  (e.spans text.toList).map (·.toBytes text.toList)

/-- The byte ranges of a label that the matches in its normalized text came from. -/
def labelRanges (e : Expression) (fold : Bool) (label : String) : List (Nat × Nat) :=
  (e.labelSpans fold label.toList).map (·.toBytes label.toList)

/-- Whether the label or a keyword of the choice matches after normalization. -/
def matchesChoice (e : Expression) (fold : Bool) (choice : Choice) : Bool :=
  e.isEmpty || choice.texts.any fun text => e.matchesText (normalize fold text.toList)

end Expression

end Picklist.Select
