import Picklist.Toml.Value

/-!
# Putting tables together

The statements of a document build nested tables. A table may be opened by one header only; a table
that exists because a header or a dotted key passed through it can be opened or extended in the same
way later, but not in the other. Nothing is ever set twice.
-/

set_option autoImplicit false

namespace Picklist.Toml

/-- How a table came about. -/
inductive Origin where
  /-- A header opened it, or it is written in braces. -/
  | opened
  /-- The header of a table below it passed through it. -/
  | passed
  /-- A dotted key passed through it. -/
  | dotted
  deriving Repr, DecidableEq, Inhabited

/-- What stands under a key while a document is read. -/
inductive Node where
  | value (v : Value)
  /-- A table that may still grow. -/
  | table (origin : Origin) (entries : List (String × Node))
  /-- Tables that share a header; the last one may still grow. -/
  | tables (earlier : List (List (String × Node))) (last : List (String × Node))
  deriving Inhabited

/-- Entries that may still grow. -/
abbrev Entries := List (String × Node)

namespace Entries

/-- Puts a node under a key, in place of the one that is there. -/
def put (key : String) (node : Node) : Entries → Entries
  | [] => [(key, node)]
  | (k, n) :: rest => if k = key then (k, node) :: rest else (k, n) :: put key node rest

/-- Changes the table at the end of a path, and makes the tables on the way that do not exist. A
dotted key does not pass through tables that a header opened. -/
def changeAt (byDots : Bool) (change : Origin → Entries → Option Entries) :
    List String → Origin → Entries → Option Entries
  | [], origin, entries => change origin entries
  | key :: path, _, entries =>
    match entries.lookup key with
    | none =>
      let origin := if byDots then Origin.dotted else .passed
      (changeAt byDots change path origin []).map fun inner =>
        put key (.table origin inner) entries
    | some (.value _) => none
    | some (.tables earlier last) =>
      (changeAt byDots change path .opened last).map fun inner =>
        put key (.tables earlier inner) entries
    | some (.table origin inner) =>
      if byDots ∧ origin = .opened then none
      else
        (changeAt byDots change path origin inner).map fun inner =>
          put key (.table origin inner) entries

/-- Sets a value under a dotted key, below the table of a header. -/
def set (header path : List String) (key : String) (v : Value) (entries : Entries) :
    Option Entries :=
  let insert (origin : Origin) (entries : Entries) : Option Entries :=
    if (origin == .dotted) == path.isEmpty then none
    else if (entries.lookup key).isSome then none
    else some (put key (.value v) entries)
  changeAt false (fun origin entries => changeAt true insert path origin entries) header .opened
    entries

/-- Opens a table. -/
def openTable (path : List String) (key : String) (entries : Entries) : Option Entries :=
  let insert (_ : Origin) (entries : Entries) : Option Entries :=
    match entries.lookup key with
    | none => some (put key (.table .opened []) entries)
    | some (.table .passed inner) => some (put key (.table .opened inner) entries)
    | some _ => none
  changeAt false insert path .opened entries

/-- Opens another one of the tables that share a header. -/
def openNextTable (path : List String) (key : String) (entries : Entries) : Option Entries :=
  let insert (_ : Origin) (entries : Entries) : Option Entries :=
    match entries.lookup key with
    | none => some (put key (.tables [] []) entries)
    | some (.tables earlier last) => some (put key (.tables (earlier ++ [last]) []) entries)
    | some _ => none
  changeAt false insert path .opened entries

end Entries

mutual

/-- The value of a node that grows no more. -/
def Node.toValue : Node → Value
  | .value v => v
  | .table _ entries => .table (Entries.toTable entries)
  | .tables earlier last => .array (Entries.toTables earlier ++ [.table (Entries.toTable last)])

/-- The table of entries that grow no more. -/
def Entries.toTable : List (String × Node) → List (String × Value)
  | [] => []
  | (key, node) :: rest => (key, node.toValue) :: Entries.toTable rest

/-- The tables of entries that grow no more. -/
def Entries.toTables : List (List (String × Node)) → List Value
  | [] => []
  | entries :: rest => .table (Entries.toTable entries) :: Entries.toTables rest

end

end Picklist.Toml
