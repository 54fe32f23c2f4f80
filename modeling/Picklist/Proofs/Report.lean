import Picklist.Proofs.Json.Choices

/-!
# What a report says

The report of filtering is told by what its text says, not by how it is put together: in plain form
it is the labels, one a line, and as JSON it reads as the query and the choices.
-/

set_option autoImplicit false

namespace Picklist.Report

open Json (Value)

/-- The text lists choices for a query. In plain form it is their labels in order, each with a line
break behind it. As JSON it reads as an object of the array of choices, which read as themselves,
and the query. -/
def Lists (query : String) (found : List Choice) : OutputFormat → String → Prop
  | .plain, text => text.toList = found.flatMap fun c => c.label.toList ++ ['\n']
  | .json, text => ∃ items, Json.parse? text.toList =
      some (.object [("matches", .array items), ("query", .string query)]) ∧
        items = found.map Choice.toSortedJson ∧ items.mapM Choice.ofJson? = some found

/-- The labels stand one a line, in order. -/
theorem toList_labelLines (choices : List Choice) :
    (labelLines choices).toList = choices.flatMap fun c => c.label.toList ++ ['\n'] := by
  unfold labelLines
  rw [String.toList_join, List.flatMap_map]
  simp

/-- A document reads as the value that it was made from. -/
theorem parse?_document {v : Value} (textual : v.isTextual = true) :
    Json.parse? (document v).toList = some v := by
  have blank : Json.IsBlank ['\n'] := by
    intro c inside
    rw [List.mem_singleton.mp inside]
    rfl
  rw [document, String.toList_ofList]
  exact Choice.TextForm.parse?_write (.indented 0) textual blank

/-- The report of filtering lists the choices that were found. -/
theorem lists_filtered (format : OutputFormat) (query : String) (found : List Choice) :
    Lists query found format (filtered format query found) := by
  cases format with
  | plain => exact toList_labelLines found
  | json =>
    obtain ⟨textual, -, -, read⟩ := Choice.items_encode .alphabetical found
    refine ⟨found.map Choice.toSortedJson, parse?_document ?_, rfl, read⟩
    have items : Json.itemsTextual (found.map Choice.toSortedJson) = true := textual
    simp [choiceArray, Value.isTextual, Json.membersTextual, items]

end Picklist.Report
