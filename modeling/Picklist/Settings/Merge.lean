import Picklist.Settings.Import

/-!
# Merging settings

Settings from several sources are merged key by key, and later ones win. A table is merged into the
one that is there; any other value takes the place of what is there. The outermost keys of a source
may be several keys with dots between them.
-/

set_option autoImplicit false

namespace Picklist.Settings

/-- The entries of a table; other values have none. -/
def Value.entries : Value → Entries
  | .table entries => entries
  | _ => []

mutual

/-- Puts a value under a key of a table. Anything else than a table becomes one. -/
def assign (key : String) (target : Value) : Value → Value
  | .table inner =>
    let existing := (target.entries.lookup key).getD (.table [])
    .table (Entries.put key (assignAll existing inner) target.entries)
  | v => .table (Entries.put key v target.entries)

/-- Puts values under their keys. -/
def assignAll (target : Value) : Entries → Value
  | [] => target
  | (key, v) :: rest => assignAll (assign key target v) rest

end

/-- Puts a value at the end of a path of keys. -/
def assignAt (target : Value) (v : Value) : List String → Value
  | [] => target
  | [key] => assign key target v
  | key :: rest =>
    let existing := (target.entries.lookup key).getD .nothing
    .table (Entries.put key (assignAt existing v rest) target.entries)

/-- Whether a character may be part of a key on a path. -/
def isPathChar (c : Char) : Bool := c.isAlphanum || c == '_' || c == '-'

/-- The keys of a path; what is no path is one key. -/
def keyPath (key : String) : List String :=
  let parts := key.toList.splitOn '.'
  if parts.all fun part => !part.isEmpty && part.all isPathChar then parts.map String.ofList
  else [key]

/-- Merges the settings of a source into those of the sources before. -/
def mergeSource (target : Value) (source : Entries) : Value :=
  source.foldl (fun target (key, v) => assignAt target v (keyPath key)) target

end Picklist.Settings
