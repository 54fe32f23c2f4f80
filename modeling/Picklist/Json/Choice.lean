import Picklist.Choice
import Picklist.Json.Read
import Picklist.Json.Write

/-!
# Choices in JSON

A choice is written as an object; keywords are left out when there are none, and so is the mark of
disabled choices on others. A string is read as the choice with that label.
-/

set_option autoImplicit false

namespace Picklist

open Json (Value Members)

namespace Choice

/-- The names of the members of a choice. -/
def fieldNames : List String := ["key", "label", "keywords", "disabled"]

/-- The member with the keywords, if there are any. -/
def keywordMember (c : Choice) : Members :=
  if c.keywords.isEmpty then [] else [("keywords", Json.ofTexts c.keywords)]

/-- The member of a disabled choice. -/
def disabledMember (c : Choice) : Members :=
  if c.disabled then [("disabled", .boolean true)] else []

/-- A choice as a JSON object. -/
def toJson (c : Choice) : Value :=
  .object (("key", .string c.key) :: ("label", .string c.label)
    :: (c.keywordMember ++ c.disabledMember))

/-- A choice as a JSON object whose members are in alphabetical order. -/
def toSortedJson (c : Choice) : Value :=
  .object (c.disabledMember ++ ("key", .string c.key)
    :: (c.keywordMember ++ [("label", .string c.label)]))

/-- Reads the key of a choice; without one the label is the key. -/
def keyOr (label : String) : Option Value → Option String
  | none => some label
  | some .null => some label
  | some v => v.text?

/-- Reads a choice. -/
def ofJson? : Value → Option Choice
  | .string label => some (ofLabel label)
  | .object members =>
    if Json.eachOnce fieldNames members then do
      let label ← (members.lookup "label").bind Value.text?
      let key ← keyOr label (members.lookup "key")
      let keywords ← Json.fieldOr [] Value.texts? members "keywords"
      let disabled ← Json.fieldOr false Value.flag? members "disabled"
      some { key, label, keywords, disabled }
    else none
  | _ => none

/-- Reads a choice from a text. -/
def parse? (text : String) : Option Choice :=
  match Json.parse? text.toList with
  | some v => if v.isKeepable then ofJson? v else none
  | none => none

/-- Reads a list of choices from a text. -/
def parseList? (text : List Char) : Option (List Choice) :=
  match Json.parse? text with
  | some v =>
    match v with
    | .array items => if v.isKeepable then items.mapM ofJson? else none
    | _ => none
  | none => none

end Choice

end Picklist
