import Picklist.Arrange.Config
import Picklist.Json.Read
import Picklist.Json.Write
import Picklist.Select.Config

/-!
# Settings of lists in JSON

Settings are written as objects. Missing ones are read as the defaults; the settings may also be
given as an array, in their order.
-/

set_option autoImplicit false

namespace Picklist

open Json (Value)

namespace Select.Config

/-- The names of the settings. -/
def fieldNames : List String :=
  ["multiple", "exclude_selected_options", "hide_before_search", "max_results",
    "search_debounce_ms", "ignore_diacritics", "auto_highlight"]

/-- The settings as a JSON object. -/
def toJson (c : Config) : Value :=
  .object [("multiple", .boolean c.multiple),
    ("exclude_selected_options", .boolean c.excludeSelected),
    ("hide_before_search", .boolean c.hideBeforeSearch),
    ("max_results", c.maxResults.elim .null Json.ofNat),
    ("search_debounce_ms", Json.ofNat c.searchDebounce),
    ("ignore_diacritics", .boolean c.ignoreDiacritics),
    ("auto_highlight", .boolean c.autoHighlight)]

/-- Reads a bound that may be null. -/
def bound? : Value → Option (Option Nat)
  | .null => some none
  | v => (v.nat? largestWord).map some

/-- Reads settings. -/
def ofJson? (v : Value) : Option Config := do
  let fields ← Json.fields? fieldNames v
  let defaults : Config := {}
  let multiple ← Json.fieldOr defaults.multiple Value.flag? fields "multiple"
  let excludeSelected ←
    Json.fieldOr defaults.excludeSelected Value.flag? fields "exclude_selected_options"
  let hideBeforeSearch ←
    Json.fieldOr defaults.hideBeforeSearch Value.flag? fields "hide_before_search"
  let maxResults ← Json.fieldOr defaults.maxResults bound? fields "max_results"
  let searchDebounce ←
    Json.fieldOr defaults.searchDebounce (Value.nat? largestWord) fields "search_debounce_ms"
  let ignoreDiacritics ←
    Json.fieldOr defaults.ignoreDiacritics Value.flag? fields "ignore_diacritics"
  let autoHighlight ← Json.fieldOr defaults.autoHighlight Value.flag? fields "auto_highlight"
  some {
    multiple := multiple
    excludeSelected := excludeSelected
    hideBeforeSearch := hideBeforeSearch
    maxResults := maxResults
    searchDebounce := searchDebounce
    ignoreDiacritics := ignoreDiacritics
    autoHighlight := autoHighlight }

/-- Reads settings from a text. -/
def parse? (text : String) : Option Config := (Json.parse? text.toList).bind ofJson?

end Select.Config

namespace Arrange

/-- Reads the axis of a list: its name, or an object with nothing under its name. -/
def Orientation.ofJson? : Value → Option Orientation
  | .string name => ofName? name
  | .object [(name, .null)] => ofName? name
  | _ => none

namespace Config

/-- The names of the settings. -/
def fieldNames : List String := ["orientation", "drag_throttle_ms", "settle_delay_ms"]

/-- The settings as a JSON object. -/
def toJson (c : Config) : Value :=
  .object [("orientation", .string c.orientation.name),
    ("drag_throttle_ms", Json.ofNat c.dragThrottle), ("settle_delay_ms", Json.ofNat c.settleDelay)]

/-- Reads settings. -/
def ofJson? (v : Value) : Option Config := do
  let fields ← Json.fields? fieldNames v
  let defaults : Config := {}
  let orientation ← Json.fieldOr defaults.orientation Orientation.ofJson? fields "orientation"
  let dragThrottle ←
    Json.fieldOr defaults.dragThrottle (Value.nat? largestWord) fields "drag_throttle_ms"
  let settleDelay ←
    Json.fieldOr defaults.settleDelay (Value.nat? largestWord) fields "settle_delay_ms"
  some { orientation := orientation, dragThrottle := dragThrottle, settleDelay := settleDelay }

/-- Reads settings from a text. -/
def parse? (text : String) : Option Config := (Json.parse? text.toList).bind ofJson?

end Config

end Arrange

end Picklist
