/-!
# Settings of a select list
-/

set_option autoImplicit false

namespace Picklist.Select

/-- How a select list behaves. -/
structure Config where
  /-- Several choices can be selected at a time. -/
  multiple : Bool := false
  excludeSelected : Bool := false
  /-- Nothing is listed while the query is empty. -/
  hideBeforeSearch : Bool := false
  /-- How many choices are listed at most; none and zero both mean no bound. -/
  maxResults : Option Nat := none
  /-- How long a query must stay unchanged before the provider is asked, in milliseconds. -/
  searchDebounce : Nat := 0
  /-- Accents do not count in matching. -/
  ignoreDiacritics : Bool := false
  /-- An open list with results always has one highlighted. -/
  autoHighlight : Bool := false
  deriving Repr, DecidableEq, Inhabited

/-- The bound on the number of listed choices, if there is one. -/
def Config.resultLimit (config : Config) : Option Nat :=
  config.maxResults.filter (0 < ·)

end Picklist.Select
