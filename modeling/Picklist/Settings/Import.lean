import Picklist.Json.Read
import Picklist.Settings.Value
import Picklist.Toml.Document
import Picklist.Unicode.Utf8

/-!
# Settings from files

Files with settings are TOML documents or JSON texts; the name of the file says which.
-/

set_option autoImplicit false

namespace Picklist.Settings

/-- Puts a value under a key, in place of the one that is there. -/
def Entries.put (key : String) (v : Value) : Entries → Entries
  | [] => [(key, v)]
  | (k, w) :: rest => if k = key then (k, v) :: rest else (k, w) :: Entries.put key v rest

mutual

/-- The setting that a TOML value stands for; dates and times are texts. -/
def ofToml : Toml.Value → Value
  | .string s => .string s
  | .integer n => .integer n
  | .float x => .float x
  | .boolean b => .boolean b
  | .datetime s => .string s
  | .array items => .array (ofTomlItems items)
  | .table entries => .table (ofTomlEntries entries)

/-- The settings that the items of a TOML array stand for. -/
def ofTomlItems : List Toml.Value → List Value
  | [] => []
  | v :: rest => ofToml v :: ofTomlItems rest

/-- The settings that the entries of a TOML table stand for. -/
def ofTomlEntries : List (String × Toml.Value) → Entries
  | [] => []
  | (key, v) :: rest => (key, ofToml v) :: ofTomlEntries rest

end

/-- The setting that a JSON number stands for: a whole number where it has at most 64 bits. -/
def ofJsonNumber (n : Json.Number) : Value :=
  let value : Int := if n.value.negative then -(n.value.digits : Int) else n.value.digits
  let fits := if n.value.negative then leastInteger ≤ value ∧ value < 0 else value ≤ largestWord
  if n.isWhole ∧ fits then .integer value else .float (Binary.ofDecimal n.value)

mutual

/-- The setting that a JSON value stands for. -/
def ofJson : Json.Value → Value
  | .null => .nothing
  | .boolean b => .boolean b
  | .number n => ofJsonNumber n
  | .string s => .string s
  | .unpaired => .nothing
  | .array items => .array (ofJsonItems items)
  | .object members => .table (ofJsonMembers [] members)

/-- The settings that the items of a JSON array stand for. -/
def ofJsonItems : List Json.Value → List Value
  | [] => []
  | v :: rest => ofJson v :: ofJsonItems rest

/-- The settings that the members of a JSON object stand for, behind the ones before; of members
with one key the last one counts. -/
def ofJsonMembers (before : Entries) : List (String × Json.Value) → Entries
  | [] => before
  | (key, v) :: rest => ofJsonMembers (Entries.put key (ofJson v) before) rest

end

/-- The formats of files with settings. -/
inductive FileFormat where
  | toml
  | json
  deriving Repr, DecidableEq, Inhabited

/-- What the name of a file ends in. -/
def FileFormat.ending : FileFormat → String
  | .toml => "toml"
  | .json => "json"

/-- All formats. -/
def fileFormats : List FileFormat := [.toml, .json]

/-- The text of a file; a byte order mark in front of it does not count. -/
def fileText (bytes : List UInt8) : String :=
  Unicode.decodeLossy (match bytes with
    | 0xEF :: 0xBB :: 0xBF :: rest => rest
    | _ => bytes)

/-- Reads the settings in a file. The integers of a TOML document have at most 64 bits. -/
def readEntries? (format : FileFormat) (bytes : List UInt8) : Option Entries :=
  let text := fileText bytes
  match format with
  | .toml =>
    match Toml.parse? text with
    | some entries =>
      if Toml.entriesWithin leastInteger greatestInteger entries then some (ofTomlEntries entries)
      else none
    | none => none
  | .json =>
    match Json.parse? text.toList with
    | some v =>
      match v with
      | .object members => if v.isKeepable then some (ofJsonMembers [] members) else none
      | _ => none
    | none => none

end Picklist.Settings
