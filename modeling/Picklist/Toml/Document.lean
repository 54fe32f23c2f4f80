import Picklist.Toml.Entries
import Picklist.Toml.Quoted
import Picklist.Toml.Scalar

/-!
# TOML documents

A document is a sequence of statements, one a line: a key with a value, or a header that opens a
table for the keys that follow.
-/

set_option autoImplicit false

namespace Picklist.Toml

/-- How deep arrays and tables in braces may be nested. -/
def depthLimit : Nat := 80

/-- Drops spaces and tabs. -/
def dropGap (cs : List Char) : List Char := cs.dropWhile isGap

/-- Takes a comment, if there is one, up to the end of its line. -/
def comment (cs : List Char) : List Char :=
  match cs with
  | '#' :: rest => rest.dropWhile isPlain
  | _ => cs

/-- Drops blank lines and comments. -/
def dropLines : Nat → List Char → Option (List Char)
  | 0, _ => none
  | fuel + 1, cs =>
    let cs := dropGap cs
    match lineBreak? cs with
    | some rest => dropLines fuel rest
    | none =>
      match cs with
      | '#' :: _ =>
        let rest := comment cs
        match lineBreak? rest with
        | some rest => dropLines fuel rest
        | none => if rest.isEmpty then some [] else none
      | _ => some cs

/-- Drops the blank space between the items of an array. -/
def itemGap (cs : List Char) : Option (List Char) := dropLines (cs.length + 1) cs

/-- Whether a character may be part of an unquoted key. -/
def isKeyChar (c : Char) : Bool := c.isAlphanum || c == '_' || c == '-'

/-- Takes one part of a key. -/
def keyPart (cs : List Char) : Option (String × List Char) :=
  let (bare, rest) := Reader.run isKeyChar cs
  if bare.isEmpty then (quotedLine cs).map fun (text, rest) => (String.ofList text, rest)
  else some (String.ofList bare, rest)

/-- Takes the parts of a key behind the first one. -/
def laterKeyParts : Nat → Reader (List String)
  | 0, _ => none
  | fuel + 1, cs =>
    match dropGap cs with
    | '.' :: rest => do
      let (part, rest) ← keyPart (dropGap rest)
      let (parts, rest) ← laterKeyParts fuel rest
      some (part :: parts, rest)
    | rest => some ([], rest)

/-- Takes a key with dots between its parts: the parts before the last one, and the last one. -/
def key (cs : List Char) : Option ((List String × String) × List Char) := do
  let (first, rest) ← keyPart cs
  let (parts, rest) ← laterKeyParts (cs.length + 1) rest
  match (first :: parts).reverse with
  | last :: path => some ((path.reverse, last), rest)
  | [] => none

/-- Takes a key with its value, given a reader of values. -/
def keyValue (value : Reader Value) (cs : List Char) :
    Option ((List String × String × Value) × List Char) := do
  let ((path, last), rest) ← key cs
  let rest ← Reader.word ['='] (dropGap rest)
  let (v, rest) ← value (dropGap rest)
  some ((path, last, v), rest)

/-- The table written in braces with the given keys and values. -/
def tableOf (statements : List (List String × String × Value)) : Option Value :=
  (statements.foldlM (fun entries (path, last, v) => Entries.set [] path last v entries) []).map
    fun entries => .table (Entries.toTable entries)

/-- Takes a value; arrays and tables are nested at most as deep as the first argument says. -/
def value : Nat → Reader Value
  | 0, _ => none
  | depth + 1, cs =>
    match cs with
    | '[' :: rest => (Reader.items (value depth) itemGap ']' true rest).map
        fun (vs, rest) => (.array vs, rest)
    | '\x7b' :: rest => do
      let (statements, rest) ← Reader.items (keyValue (value depth)) itemGap '\x7d' true rest
      let table ← tableOf statements
      some (table, rest)
    | '\x22' :: _ => (quoted cs).map fun (text, rest) => (.string (String.ofList text), rest)
    | '\x27' :: _ => (quoted cs).map fun (text, rest) => (.string (String.ofList text), rest)
    | _ => unquoted cs

/-- A statement of a document. -/
inductive Statement where
  /-- Sets a value under a dotted key. -/
  | set (path : List String) (key : String) (v : Value)
  | table (path : List String) (key : String)
  /-- Opens one of the tables that share a header. -/
  | nextTable (path : List String) (key : String)
  deriving Inhabited

/-- Takes a statement. -/
def statement (cs : List Char) : Option (Statement × List Char) :=
  match cs with
  | '[' :: '[' :: rest => do
    let ((path, last), rest) ← key (dropGap rest)
    let rest ← Reader.word [']', ']'] (dropGap rest)
    some (.nextTable path last, rest)
  | '[' :: rest => do
    let ((path, last), rest) ← key (dropGap rest)
    let rest ← Reader.word [']'] (dropGap rest)
    some (.table path last, rest)
  | _ => do
    let ((path, last, v), rest) ← keyValue (value depthLimit) cs
    some (.set path last v, rest)

/-- Takes the end of a line behind a statement. -/
def lineEnd (cs : List Char) : Option (List Char) :=
  let rest := comment (dropGap cs)
  if rest.isEmpty then some [] else lineBreak? rest

/-- Reads all statements of a document. -/
def statements : Nat → List Char → Option (List Statement)
  | 0, _ => none
  | fuel + 1, cs => do
    let cs ← itemGap cs
    if cs.isEmpty then some []
    else
      let (first, rest) ← statement cs
      let rest ← lineEnd rest
      let others ← statements fuel rest
      some (first :: others)

/-- What has been read of a document: the header of the current table, and the entries. -/
structure Draft where
  /-- The keys of the current header. -/
  header : List String := []
  entries : Entries := []
  deriving Inhabited

/-- Applies a statement. -/
def Draft.apply (d : Draft) : Statement → Option Draft
  | .set path last v =>
    (Entries.set d.header path last v d.entries).map fun entries => { d with entries }
  | .table path last => (Entries.openTable path last d.entries).map fun entries =>
      { header := path ++ [last], entries }
  | .nextTable path last => (Entries.openNextTable path last d.entries).map fun entries =>
      { header := path ++ [last], entries }

/-- Reads a document. A byte order mark in front of it does not count. -/
def parse? (text : String) : Option Table := do
  let cs := match text.toList with
    | '\ufeff' :: rest => rest
    | cs => cs
  let all ← statements (cs.length + 1) cs
  let draft ← all.foldlM Draft.apply {}
  some (Entries.toTable draft.entries)

end Picklist.Toml
