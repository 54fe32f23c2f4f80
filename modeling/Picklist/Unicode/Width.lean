import Picklist.Unicode.GraphemeBreak
import Picklist.Unicode.WidthTable

/-!
# Column widths of texts

A text takes as many columns as its characters, except that a selector can widen or narrow the
character before it, a skin tone adds nothing to a picture, pictures that a joiner joins count once,
and a carriage return with a line feed counts as one.
-/

set_option autoImplicit false

namespace Picklist.Unicode

/-- The selector that asks for plain text. -/
def textSelector : Char := '\ufe0e'

/-- The selector that asks for a picture. -/
def pictureSelector : Char := '\ufe0f'

/-- The joiner between pictures. -/
def joiner : Char := '\u200d'

/-- Whether the character is a skin tone. -/
def isSkinTone (c : Char) : Bool :=
  0x1F3FB ≤ c.toNat && c.toNat ≤ 0x1F3FF

/-- Whether the text selector narrows the picture. -/
def narrows (c : Char) : Bool :=
  pictureRanges.contains c && !(0x1F200 ≤ c.toNat && c.toNat ≤ 0x1F2FF)

/-- The columns of a text. With `joined` the text follows a joiner that joins it to a picture. -/
def widthFrom (joined : Bool) : List Char → Nat
  | [] => 0
  | '\r' :: '\n' :: rest => 1 + widthFrom false rest
  | c :: d :: rest =>
    if (d = pictureSelector ∧ selectablePictureRanges.contains c)
        ∨ (isSkinTone d ∧ pictographRanges.contains c) then
      (if joined then 0 else 2) +
        match rest with
        | e :: rest => if e = joiner then widthFrom true rest else widthFrom false (e :: rest)
        | [] => 0
    else if d = textSelector ∧ narrows c then 1 + widthFrom false rest
    else if pictureRanges.contains c then
      (if joined then 0 else charWidth c) +
        (if d = joiner then widthFrom true rest else widthFrom false (d :: rest))
    else charWidth c + widthFrom false (d :: rest)
  | [c] => if joined && pictureRanges.contains c then 0 else charWidth c

/-- The columns of a text. -/
def textWidth (cs : List Char) : Nat := widthFrom false cs

/-- The columns of a string. -/
def stringWidth (s : String) : Nat := textWidth s.toList

end Picklist.Unicode
