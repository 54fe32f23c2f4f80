import Picklist.Number.Decimal
import Picklist.Theme.Basic

/-!
# Colours and attributes as text

A colour is written as `#` with two hexadecimal digits for each of red, green and blue, as a number
of the palette, or by its name. Names are read without regard to the case of ASCII letters, and
hyphens and spaces count as underscores.
-/

set_option autoImplicit false

namespace Picklist.Theme

open Terminal

/-- Why a text is no colour. -/
inductive ColorError where
  /-- There are not six characters behind `#`. -/
  | length
  /-- Not all characters behind `#`, which are given, are digits. -/
  | digits (hex : String)
  | unknown (name : String)
  deriving Repr, DecidableEq, Inhabited

namespace ColorError

/-- What is wrong, in words. -/
def message : ColorError → String
  | .length => "hex colours must be 6 characters long"
  | .digits hex => "invalid hex colour \x60#" ++ hex ++ "\x60: invalid digit found in string"
  | .unknown name => "unknown colour \x60" ++ name ++ "\x60"

end ColorError

/-- A name in the form in which names are compared. -/
def foldName (text : String) : String :=
  String.ofList ((asciiLower (Unicode.trimString text)).toList.map fun c =>
    if c = '-' ∨ c = ' ' then '_' else c)

/-- The colour with the given name. -/
def namedColor? : String → Option Color
  | "reset" => some .reset
  | "default" => some .reset
  | "black" => some .black
  | "red" => some .red
  | "green" => some .green
  | "yellow" => some .yellow
  | "blue" => some .blue
  | "magenta" => some .magenta
  | "cyan" => some .cyan
  | "gray" => some .gray
  | "grey" => some .gray
  | "dark_gray" => some .darkGray
  | "dark_grey" => some .darkGray
  | "white" => some .white
  | _ => none

/-- The share of red, green or blue that two characters spell; the first may be a plus sign. -/
def channel? (cs : List Char) : Option Nat := naturalUpTo? 16 255 cs

/-- Reads what stands behind `#`. -/
def hexColor (hex : List Char) : Except ColorError Color :=
  if hex.length ≠ 6 ∨ hex.any (0x80 ≤ ·.toNat) then .error .length
  else
    match channel? (hex.take 2), channel? ((hex.drop 2).take 2), channel? (hex.drop 4) with
    | some red, some green, some blue => .ok (.rgb red green blue)
    | _, _, _ => .error (.digits (String.ofList hex))

/-- Reads a colour. -/
def parseColor (text : String) : Except ColorError Color :=
  match Unicode.trim text.toList with
  | '#' :: hex => hexColor hex
  | cs =>
    match naturalUpTo? 10 255 cs with
    | some index => .ok (.indexed index)
    | none =>
      let name := foldName text
      match namedColor? name with
      | some color => .ok color
      | none => .error (.unknown name)

/-- The attribute with the given name. -/
def namedModifier? : String → Option Modifiers
  | "bold" => some { bold := true }
  | "dim" => some { dim := true }
  | "italic" => some { italic := true }
  | "underline" => some { underlined := true }
  | "underlined" => some { underlined := true }
  | "reversed" => some { reversed := true }
  | "reverse" => some { reversed := true }
  | "crossed_out" => some { crossedOut := true }
  | "strikethrough" => some { crossedOut := true }
  | _ => none

end Picklist.Theme
