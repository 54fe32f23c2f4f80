import Picklist.Select.Config
import Picklist.Select.Expression
import Picklist.Select.Selection

/-!
# Filtering

The listed choices are the candidates, in their order, that are enabled and match the query, without
the selected ones where the settings exclude them, up to the bound on results. A hook may change the
list at the end. With `hideBeforeSearch` an empty query lists nothing and asks no hook.
-/

set_option autoImplicit false

namespace Picklist.Select

/-- What a caller can put in place of the default filtering, and the reader of patterns. -/
structure Hooks where
  /-- Writes the pattern for a query. -/
  expression : Option (String → String) := none
  /-- Changes the list of results for a query. -/
  results : Option (List Choice → String → List Choice) := none
  /-- Reads the patterns that the hook writes, and those of literal queries. -/
  read : Pattern.Reader := Pattern.ofText?

/-- The expression for a normalized query, read with these hooks. -/
def Hooks.compile (hooks : Hooks) (query : String) : Expression :=
  Expression.compile query hooks.expression hooks.read

/-- Whether a candidate may be listed. -/
def isListed (config : Config) (expression : Expression) (selected : Selection) (choice : Choice) :
    Bool :=
  !choice.disabled
    && !(config.excludeSelected && selected.contains choice.key)
    && expression.matchesChoice config.ignoreDiacritics choice

/-- The first elements that satisfy the test, `limit` of them at the most; the list is read no
further than needed. -/
def takeWhere {α : Type} (test : α → Bool) (limit : Option Nat) : List α → List α
  | [] => []
  | a :: rest =>
    if limit = some 0 then []
    else if test a then a :: takeWhere test (limit.map (· - 1)) rest
    else takeWhere test limit rest

/-- The choices listed for a query whose expression is known. -/
def filterWith (candidates : List Choice) (query : String) (expression : Expression)
    (selected : Selection) (config : Config) (hooks : Hooks) : List Choice :=
  if query.isEmpty && config.hideBeforeSearch then []
  else
    let listed := takeWhere (isListed config expression selected) config.resultLimit candidates
    match hooks.results with
    | some change => change listed query
    | none => listed

/-- The choices listed for a normalized query. -/
def filter (candidates : List Choice) (query : String) (selected : Selection) (config : Config)
    (hooks : Hooks) : List Choice :=
  filterWith candidates query (hooks.compile query) selected config hooks

end Picklist.Select
