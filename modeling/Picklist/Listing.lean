import Picklist.Json.Choice
import Picklist.Text.Lines
import Picklist.Unicode.WhiteSpace

/-!
# Lists of choices as text

A list of choices is a JSON array, or plain text with a label on every line. Of choices with one key
only the first is kept.
-/

set_option autoImplicit false

namespace Picklist.Listing

/-- Why a list cannot be read. -/
inductive ListingError where
  /-- The text with the given origin starts like a JSON array, but is no list of choices. -/
  | notAList (origin : String)
  /-- What the list should be read from cannot be read. -/
  | unreadable (origin : String)
  deriving Repr, DecidableEq, Inhabited

namespace ListingError

/-- What is wrong, in words. -/
def message : ListingError → String
  | .notAList origin => origin ++ " is not a valid JSON option list"
  | .unreadable origin => "failed to read options from " ++ origin

end ListingError

/-- The choices whose keys are not among the given ones or those of earlier choices. -/
def dropRepeats (seen : List String) : List Choice → List Choice
  | [] => []
  | c :: rest =>
    if seen.contains c.key then dropRepeats seen rest
    else c :: dropRepeats (c.key :: seen) rest

/-- The choices on the lines of a plain text; blank lines do not count. -/
def ofLines (text : List Char) : List Choice :=
  (((Text.lines text).map Unicode.trim).filter fun line => !line.isEmpty).map fun line =>
    Choice.ofLabel (String.ofList line)

/-- Whether a text starts like a JSON array. -/
def looksLikeArray (text : List Char) : Bool :=
  (Unicode.trimStart text).head? == some '['

/-- Reads a list of choices. -/
def parse (origin text : String) : Except ListingError (List Choice) :=
  let cs := text.toList
  if looksLikeArray cs then
    match Choice.parseList? cs with
    | some choices => .ok (dropRepeats [] choices)
    | none => .error (.notAList origin)
  else .ok (dropRepeats [] (ofLines cs))

end Picklist.Listing
