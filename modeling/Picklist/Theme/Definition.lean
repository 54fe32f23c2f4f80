import Picklist.Path
import Picklist.Theme.ColorText
import Picklist.Toml.Document

/-!
# Definitions of themes

A theme is defined in a TOML document: its name, its other names, whether it is the default, and a
style for every part of the lists, with colours and attributes as text.
-/

set_option autoImplicit false

namespace Picklist.Theme

open Terminal
open Toml (Value)

/-- A style whose colours and attributes are texts. -/
structure StyleText where
  fg : Option String := none
  bg : Option String := none
  modifiers : List String := []
  deriving Repr, DecidableEq, Inhabited

/-- The parts of the lists, in the order in which their styles are read. -/
def partNames : List String :=
  ["header", "row_highlight", "prompt", "empty", "highlight", "selected", "moving", "pinned",
    "settling"]

/-- A theme as it is written down. -/
structure Definition where
  name : String
  aliases : List String := []
  isDefault : Bool := false
  /-- The styles of the parts, in order. -/
  styles : List StyleText
  deriving Repr, DecidableEq, Inhabited

/-! ## Reading documents -/

/-- The fields of a record: the entries of a table, or the items of an array in the order of the
fields. -/
def fields? (names : List String) : Value → Option (List (String × Value))
  | .table entries => some entries
  | .array items => some (names.zip items)
  | .datetime _ => some []
  | _ => none

/-- A text. -/
def text? : Value → Option String
  | .string s => some s
  | _ => none

/-- A list of texts. -/
def texts? : Value → Option (List String)
  | .array items => items.mapM text?
  | _ => none

/-- A truth value. -/
def flag? : Value → Option Bool
  | .boolean b => some b
  | _ => none

/-- Reads a field that may be missing. -/
def optionalField {α : Type} (fields : List (String × Value)) (name : String)
    (read : Value → Option α) : Option (Option α) :=
  match fields.lookup name with
  | some v => (read v).map some
  | none => some none

/-- Reads a style. -/
def styleText? (v : Value) : Option StyleText := do
  let fields ← fields? ["fg", "bg", "modifiers"] v
  let fg ← optionalField fields "fg" text?
  let bg ← optionalField fields "bg" text?
  let modifiers ← optionalField fields "modifiers" texts?
  some { fg, bg, modifiers := modifiers.getD [] }

/-- Reads the styles of all parts. -/
def styleTexts? (v : Value) : Option (List StyleText) := do
  let fields ← fields? partNames v
  partNames.mapM fun name => (fields.lookup name).bind styleText?

/-- The least integer that a document with a theme may hold. -/
def leastKeepable : Int := -(Nat.pow 2 127 : Nat)

/-- The greatest integer that a document with a theme may hold. -/
def greatestKeepable : Int := (Nat.pow 2 128 - 1 : Nat)

/-- Reads the definition of a theme from the entries of a document, whose integers have at most 128
bits. -/
def definition? (entries : Toml.Table) : Option Definition := do
  if !Toml.entriesWithin leastKeepable greatestKeepable entries then none
  let name ← (entries.lookup "name").bind text?
  let aliases ← optionalField entries "aliases" texts?
  let isDefault ← optionalField entries "default" flag?
  let styles ← (entries.lookup "styles").bind styleTexts?
  some { name, aliases := aliases.getD [], isDefault := isDefault.getD false, styles }

/-! ## Reading styles -/

/-- Why a style cannot be read. -/
inductive StyleError where
  /-- The colour of the text is no colour. -/
  | foreground (text : String) (cause : ColorError)
  /-- The colour behind the text is no colour. -/
  | background (text : String) (cause : ColorError)
  | modifier (text : String)
  deriving Repr, DecidableEq, Inhabited

namespace StyleError

/-- What is wrong, in words. -/
def message : StyleError → String
  | .foreground text cause => "invalid foreground colour \x60" ++ text ++ "\x60: " ++ cause.message
  | .background text cause => "invalid background colour \x60" ++ text ++ "\x60: " ++ cause.message
  | .modifier text =>
    "invalid modifier \x60" ++ text ++ "\x60: unknown modifier \x60" ++ foldName text ++ "\x60"

end StyleError

/-- Reads a colour that may be missing. -/
def optionalColor (fail : String → ColorError → StyleError) :
    Option String → Except StyleError (Option Color)
  | none => .ok none
  | some text => ((parseColor text).map some).mapError (fail text)

/-- Reads attributes. -/
def readModifiers : List String → Except StyleError Modifiers
  | [] => .ok {}
  | text :: rest =>
    match namedModifier? (foldName text) with
    | some m => (readModifiers rest).map m.union
    | none => .error (.modifier text)

namespace StyleText

/-- The style that the texts stand for. -/
def toStyle (s : StyleText) : Except StyleError Style := do
  let fg ← optionalColor .foreground s.fg
  let bg ← optionalColor .background s.bg
  let add ← readModifiers s.modifiers
  .ok { fg, bg, add }

end StyleText

/-- Reads the styles of the parts, in order; an error comes with the name of the part. -/
def partStyles : List (String × StyleText) → Except (String × StyleError) (List Style)
  | [] => .ok []
  | (name, text) :: rest => do
    let style ← text.toStyle.mapError fun e => (name, e)
    let styles ← partStyles rest
    .ok (style :: styles)

/-- The theme with the given styles of its parts, in order. -/
def ofStyles (styles : List Style) : Theme where
  header := styles.getD 0 .plain
  rowHighlight := styles.getD 1 .plain
  prompt := styles.getD 2 .plain
  empty := styles.getD 3 .plain
  highlight := styles.getD 4 .plain
  selected := styles.getD 5 .plain
  moving := styles.getD 6 .plain
  pinned := styles.getD 7 .plain
  settling := styles.getD 8 .plain

namespace Definition

/-- The theme that is defined. -/
def toTheme (d : Definition) : Except (String × StyleError) Theme :=
  (partStyles (partNames.zip d.styles)).map ofStyles

/-- The theme with its names. Blank names are left out. -/
def toNamedTheme (d : Definition) (theme : Theme) : NamedTheme where
  name := d.name
  aliases := (d.aliases.map Unicode.trimString).filter fun name => !name.isEmpty
  theme := theme

end Definition

end Picklist.Theme
