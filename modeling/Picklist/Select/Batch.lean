import Picklist.Select.Selector

/-!
# Filtering without a session

A list of choices is filtered once by a query. Where there is a search, it is asked first: what it
finds is filtered instead of the list, and when it fails the list is.
-/

set_option autoImplicit false

namespace Picklist.Select

section Batch

variable {ε : Type} (search : Option (String → Except ε (List Choice)))

/-- The choices that are filtered: what the search finds for the normalized query, or the list. -/
def searched (config : Config) (query : String) (choices : List Choice) : List Choice :=
  match search with
  | none => choices
  | some find =>
    match find (Text.normalizeQueryString config.ignoreDiacritics query) with
    | .ok found => found
    | .error _ => choices

/-- The choices that a query lists. -/
def batchFilter (config : Config) (query : String) (choices : List Choice) : List Choice :=
  ((Selector.ofChoices config (searched search config query choices)).setQuery query 0).filtered

end Batch

end Picklist.Select
