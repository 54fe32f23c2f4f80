import Picklist.Json.Choice

/-!
# Results as text

What is printed at the end: the labels, one a line, or a JSON object whose members are in
alphabetical order.
-/

set_option autoImplicit false

namespace Picklist

/-- The forms of results. -/
inductive OutputFormat where
  | plain
  | json
  deriving Repr, DecidableEq, Inhabited

/-- The name of a form. -/
def OutputFormat.name : OutputFormat → String
  | .plain => "plain"
  | .json => "json"

/-- The form with the given name. -/
def OutputFormat.ofName? : String → Option OutputFormat
  | "plain" => some .plain
  | "json" => some .json
  | _ => none

namespace Report

open Json (Value)

/-- The labels of choices, one a line. -/
def labelLines (choices : List Choice) : String :=
  String.join (choices.map fun c => c.label ++ "\n")

/-- A JSON value over several lines, and a line break. -/
def document (v : Value) : String := String.ofList (v.pretty 0 ++ ['\n'])

/-- Choices as a JSON array. -/
def choiceArray (choices : List Choice) : Value := .array (choices.map Choice.toSortedJson)

/-- The result of picking: nothing is listed in plain form when the session was given up. -/
def picked (format : OutputFormat) (accepted : Bool) (query : String) (selected : List Choice) :
    String :=
  match format with
  | .plain => if accepted then labelLines selected else ""
  | .json => document (.object [("accepted", .boolean accepted), ("query", .string query),
      ("selected", choiceArray selected)])

/-- The result of sorting: nothing is listed in plain form when the session was given up. -/
def sorted (format : OutputFormat) (accepted : Bool) (items : List Choice) : String :=
  match format with
  | .plain => if accepted then labelLines items else ""
  | .json => document (.object [("accepted", .boolean accepted), ("items", choiceArray items)])

/-- The choices that a query lists. -/
def filtered (format : OutputFormat) (query : String) (found : List Choice) : String :=
  match format with
  | .plain => labelLines found
  | .json => document (.object [("matches", choiceArray found), ("query", .string query)])

end Report

end Picklist
