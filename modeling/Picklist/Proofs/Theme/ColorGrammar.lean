import Picklist.Proofs.Number.Spelling
import Picklist.Proofs.Text.Parts
import Picklist.Theme.ColorText

/-!
# The grammar of colours

A colour is written as `#` with two hexadecimal digits for each of red, green and blue, as a decimal
number of the palette, or by one of the listed names. The reader accepts all of these and, where a
text has no plus sign, nothing else. But numbers are read with a plus sign in front as well, in the
palette and in each of the three shares of a mixed colour.
-/

set_option autoImplicit false

namespace Picklist.Theme

open Terminal Unicode

/-! ## Names -/

/-- The names of colours. -/
def colorNames : List (String × Color) :=
  [("reset", .reset), ("default", .reset), ("black", .black), ("red", .red), ("green", .green),
    ("yellow", .yellow), ("blue", .blue), ("magenta", .magenta), ("cyan", .cyan), ("gray", .gray),
    ("grey", .gray), ("dark_gray", .darkGray), ("dark_grey", .darkGray), ("white", .white)]

/-- The names that are read as colours are those of the table. -/
theorem namedColor?_eq_some_iff {name : String} {color : Color} :
    namedColor? name = some color ↔ (name, color) ∈ colorNames := by
  constructor
  · intro named
    unfold namedColor? at named
    split at named
    case h_15 => cases named
    all_goals
      obtain rfl := Option.some.inj named
      decide
  · have listed : ∀ entry ∈ colorNames, namedColor? entry.1 = some entry.2 := by decide
    exact listed (name, color)

/-- A character as it counts in a name: small, and an underscore for a hyphen or a space. -/
def foldNameChar (c : Char) : Char :=
  if c.toLower = '-' ∨ c.toLower = ' ' then '_' else c.toLower

/-- The name that a trimmed text stands for. -/
def nameOf (cs : List Char) : String := String.ofList (cs.map foldNameChar)

/-- Names are compared in the form of their trimmed text. -/
theorem foldName_eq (text : String) : foldName text = nameOf (trim text.toList) := by
  rw [foldName, asciiLower, trimString, nameOf, String.toList_ofList, String.toList_ofList,
    List.map_map]
  rfl

/-- Names hold letters and underscores, at least one. -/
theorem names_are_words : ∀ entry ∈ colorNames, entry.1 ≠ "" ∧
    ∀ c ∈ entry.1.toList, c ∈ "abcdefghijklmnopqrstuvwxyz_".toList := by
  have words : ∀ entry ∈ colorNames, entry.1 ≠ "" ∧
      entry.1.toList ⊆ "abcdefghijklmnopqrstuvwxyz_".toList := by decide +kernel
  exact words

/-! ## Colours -/

/-- The text, which is trimmed, is a colour. Which texts spell a number is left open. -/
inductive Written (spells : Nat → List Char → Nat → Prop) : List Char → Color → Prop where
  | mixed {a b c d e f : Char} {red green blue : Nat} (first : spells 16 [a, b] red)
    (second : spells 16 [c, d] green) (third : spells 16 [e, f] blue) :
    Written spells ['#', a, b, c, d, e, f] (.rgb red green blue)
  | indexed {digits : List Char} {n : Nat} (digits_spell : spells 10 digits n) (bound : n ≤ 255) :
    Written spells digits (.indexed n)
  | named {cs : List Char} {color : Color} (listed : (nameOf cs, color) ∈ colorNames) :
    Written spells cs color

/-- Where more texts spell numbers, more texts are colours. -/
theorem Written.mono {spells spells' : Nat → List Char → Nat → Prop}
    (more : ∀ base cs n, spells base cs n → spells' base cs n) {cs : List Char} {color : Color}
    (written : Written spells cs color) : Written spells' cs color := by
  cases written with
  | mixed first second third =>
    exact .mixed (more _ _ _ first) (more _ _ _ second) (more _ _ _ third)
  | indexed digits_spell bound => exact .indexed (more _ _ _ digits_spell) bound
  | named listed => exact .named listed

/-- Without a plus sign it makes no difference whether numbers may have one. -/
theorem Written.of_signed {cs : List Char} {color : Color} (noSign : '+' ∉ cs)
    (written : Written SpellsSigned cs color) : Written Spells cs color := by
  cases written with
  | mixed first second third =>
    simp only [List.mem_cons, List.not_mem_nil, or_false, not_or] at noSign
    exact .mixed (first.spells (by simp [noSign])) (second.spells (by simp [noSign]))
      (third.spells (by simp [noSign]))
  | indexed digits_spell bound => exact .indexed (digits_spell.spells noSign) bound
  | named listed => exact .named listed

/-! ## Reading mixed colours -/

/-- Two characters are read as a share exactly if they spell it in hexadecimal, a plus sign
allowed. -/
theorem channel?_eq_some_iff {a b : Char} {share : Nat} :
    channel? [a, b] = some share ↔ SpellsSigned 16 [a, b] share := by
  rw [channel?, naturalUpTo?_eq_some_iff]
  constructor
  · exact And.right
  · intro signed
    have bound : share < 16 ^ 2 := signed.lt_pow (by decide)
    exact ⟨by omega, signed⟩

/-- What spells a hexadecimal number is ASCII. -/
theorem ascii_of_signed {cs : List Char} {n : Nat} (signed : SpellsSigned 16 cs n) :
    ∀ c ∈ cs, c.toNat < 0x80 := by
  have ascii : ('+' :: (smallDigits ++ capitalDigits)).all (·.toNat < 0x80) := by decide +kernel
  exact fun c member => of_decide_eq_true (List.all_eq_true.mp ascii c (signed.mem c member))

/-- Six characters behind `#` are a colour if each pair of them spells a share. -/
theorem hexColor_eq_ok_iff {a b c d e f : Char} {color : Color} :
    hexColor [a, b, c, d, e, f] = .ok color ↔ ∃ red green blue, SpellsSigned 16 [a, b] red ∧
      SpellsSigned 16 [c, d] green ∧ SpellsSigned 16 [e, f] blue ∧ .rgb red green blue = color := by
  constructor
  · intro read
    unfold hexColor at read
    split at read
    · cases read
    · split at read
      · rename_i red green blue first second third
        exact ⟨red, green, blue, channel?_eq_some_iff.mp first, channel?_eq_some_iff.mp second,
          channel?_eq_some_iff.mp third, Except.ok.inj read⟩
      · cases read
  · rintro ⟨red, green, blue, first, second, third, rfl⟩
    have ascii : ¬ ([a, b, c, d, e, f].length ≠ 6 ∨
        [a, b, c, d, e, f].any (0x80 ≤ ·.toNat) = true) := by
      have bounds := And.intro (ascii_of_signed first)
        (And.intro (ascii_of_signed second) (ascii_of_signed third))
      simpa [and_assoc] using bounds
    have firstPair : channel? ([a, b, c, d, e, f].take 2) = some red :=
      channel?_eq_some_iff.mpr first
    have secondPair : channel? (([a, b, c, d, e, f].drop 2).take 2) = some green :=
      channel?_eq_some_iff.mpr second
    have thirdPair : channel? ([a, b, c, d, e, f].drop 4) = some blue :=
      channel?_eq_some_iff.mpr third
    rw [hexColor, if_neg ascii, firstPair, secondPair, thirdPair]

/-- A hexadecimal colour has six characters. -/
theorem exists_six_of_hexColor {hex : List Char} {color : Color} (read : hexColor hex = .ok color) :
    ∃ a b c d e f, hex = [a, b, c, d, e, f] := by
  have six : hex.length = 6 := by
    by_contra other
    rw [hexColor, if_pos (.inl other)] at read
    cases read
  match hex, six with
  | [a, b, c, d, e, f], _ => exact ⟨a, b, c, d, e, f, rfl⟩

/-! ## Reading colours -/

/-- A trimmed text that stands for a name is not empty and holds letters, spaces, hyphens and
underscores only. -/
theorem chars_of_named {cs : List Char} {color : Color} (listed : (nameOf cs, color) ∈ colorNames) :
    cs ≠ [] ∧ ∀ c ∈ cs, foldNameChar c ∈ "abcdefghijklmnopqrstuvwxyz_".toList := by
  obtain ⟨some_char, chars⟩ := names_are_words _ listed
  constructor
  · rintro rfl
    exact some_char rfl
  · intro c member
    apply chars
    rw [nameOf, String.toList_ofList]
    exact List.mem_map_of_mem member

/-- Signs and digits are no parts of names, and `#` is none. -/
theorem not_named_of_mem {cs : List Char} {color : Color} {c : Char} (member : c ∈ cs)
    (sign : c ∈ "#+0123456789".toList) : (nameOf cs, color) ∉ colorNames := by
  intro listed
  have letter := (chars_of_named listed).2 c member
  have apart : "#+0123456789".toList.all
      (foldNameChar · ∉ "abcdefghijklmnopqrstuvwxyz_".toList) := by decide +kernel
  exact of_decide_eq_true (List.all_eq_true.mp apart c sign) letter

/-- What spells a number in the palette is no name. -/
theorem not_named_of_spelled {cs : List Char} {n : Nat} (signed : SpellsSigned 10 cs n)
    (color : Color) : (nameOf cs, color) ∉ colorNames := by
  have decimal : ∀ v < 10, ∀ c, smallDigits[v]? = some c ∨ capitalDigits[v]? = some c →
      c ∈ "#+0123456789".toList := by
    have small : ∀ v < 10, smallDigits[v]?.all (· ∈ "#+0123456789".toList) := by decide +kernel
    have capital : ∀ v < 10, capitalDigits[v]?.all (· ∈ "#+0123456789".toList) := by
      decide +kernel
    rintro v below c (here | here)
    · simpa [here] using small v below
    · simpa [here] using capital v below
  rcases signed with spells | ⟨digits, rfl, -⟩
  · obtain ⟨some_digit, digits, -⟩ := spells_iff.mp spells
    obtain ⟨c, rest, rfl⟩ := List.exists_cons_of_ne_nil some_digit
    obtain ⟨value, digit⟩ := isDigitIn_iff.mp (digits c List.mem_cons_self)
    exact not_named_of_mem List.mem_cons_self (decimal value digit.below c digit.listed)
  · exact not_named_of_mem List.mem_cons_self (by decide +kernel)

/-- A text is read as a colour exactly if it is one after trimming, where numbers may have a plus
sign. -/
theorem parseColor_eq_ok_iff {text : String} {color : Color} :
    parseColor text = .ok color ↔ Written SpellsSigned (trim text.toList) color := by
  unfold parseColor
  rw [foldName_eq]
  generalize trim text.toList = cs
  split
  · rename_i hex
    constructor
    · intro read
      obtain ⟨a, b, c, d, e, f, rfl⟩ := exists_six_of_hexColor read
      obtain ⟨red, green, blue, first, second, third, rfl⟩ := hexColor_eq_ok_iff.mp read
      exact .mixed first second third
    · intro written
      cases written with
      | mixed first second third =>
        exact hexColor_eq_ok_iff.mpr ⟨_, _, _, first, second, third, rfl⟩
      | indexed digits_spell bound =>
        have noDigit : '#' ∉ '+' :: (smallDigits ++ capitalDigits) := by decide +kernel
        exact absurd (digits_spell.mem '#' List.mem_cons_self) noDigit
      | named listed =>
        exact absurd listed (not_named_of_mem List.mem_cons_self (by decide +kernel))
  · rename_i noMix
    cases number : naturalUpTo? 10 255 cs with
    | some index =>
      obtain ⟨bound, spelled⟩ := naturalUpTo?_eq_some_iff.mp number
      constructor
      · intro read
        obtain rfl := Except.ok.inj read
        exact .indexed spelled bound
      · intro written
        cases written with
        | mixed => exact absurd rfl (noMix _)
        | indexed digits_spell bound' =>
          have same := naturalUpTo?_eq_some_iff.mpr ⟨bound', digits_spell⟩
          rw [number] at same
          rw [Option.some.inj same]
        | named listed => exact absurd listed (not_named_of_spelled spelled color)
    | none =>
      dsimp only
      constructor
      · intro read
        split at read
        · rename_i found named
          obtain rfl := Except.ok.inj read
          exact .named (namedColor?_eq_some_iff.mp named)
        · cases read
      · intro written
        cases written with
        | mixed => exact absurd rfl (noMix _)
        | indexed digits_spell bound =>
          rw [naturalUpTo?_eq_some_iff.mpr ⟨bound, digits_spell⟩] at number
          cases number
        | named listed => rw [namedColor?_eq_some_iff.mpr listed]

/-- **The grammar of colours.** After trimming, the texts that are read as a colour are exactly
these: `#` with two hexadecimal digits, small or capital, for each share of a mixed colour; decimal
digits for a number up to 255 of the palette; and the listed names, where the case of ASCII letters
does not count and hyphens and spaces count as underscores. A plus sign may stand in front of the
number of the palette and instead of the first digit of a share. In a text without plus sign only
digits spell a number. Every other text is refused. -/
theorem colors_follow_grammar (text : String) :
    (∀ color, parseColor text = .ok color ↔ Written SpellsSigned (trim text.toList) color) ∧
      (∀ color, Written Spells (trim text.toList) color → parseColor text = .ok color) ∧
      ('+' ∉ text.toList →
        ∀ color, parseColor text = .ok color ↔ Written Spells (trim text.toList) color) ∧
      ((∃ error, parseColor text = .error error) ↔
        ∀ color, ¬ Written SpellsSigned (trim text.toList) color) := by
  have plain (color : Color) (written : Written Spells (trim text.toList) color) :
      parseColor text = .ok color :=
    parseColor_eq_ok_iff.mpr (written.mono fun _ _ _ => .inl)
  refine ⟨fun _ => parseColor_eq_ok_iff, plain, ?_, ?_⟩
  · intro noSign color
    have trimmed : '+' ∉ trim text.toList := fun sign =>
      noSign ((trim_isInfix text.toList).subset sign)
    exact ⟨fun read => .of_signed trimmed (parseColor_eq_ok_iff.mp read), plain color⟩
  · simp only [← parseColor_eq_ok_iff]
    cases parseColor text with
    | ok color => simp
    | error error => simp

/-- Capital digits count as small ones, and blank space around the text does not count. -/
theorem colors_follow_grammar_orange :
    '+' ∉ " #FF8000 ".toList ∧ parseColor " #FF8000 " = .ok (.rgb 255 128 0) ∧
      Written Spells (trim " #FF8000 ".toList) (.rgb 255 128 0) := by
  obtain ⟨-, -, exact_grammar, -⟩ := colors_follow_grammar " #FF8000 "
  have noSign : '+' ∉ " #FF8000 ".toList := by decide +kernel
  have read : parseColor " #FF8000 " = .ok (.rgb 255 128 0) := by decide +kernel
  exact ⟨noSign, read, (exact_grammar noSign _).mp read⟩

/-- A plus sign is read as the first digit of each share, and in front of a number. -/
theorem signs_are_read_in_colors :
    parseColor "#+1+2+3" = .ok (.rgb 1 2 3) ∧
      ¬ Written Spells (trim "#+1+2+3".toList) (.rgb 1 2 3) ∧
      parseColor "+42" = .ok (.indexed 42) ∧
      ¬ Written Spells (trim "+42".toList) (.indexed 42) := by
  refine ⟨by decide +kernel, ?_, by decide +kernel, ?_⟩
  · have trimmed : trim "#+1+2+3".toList = ['#', '+', '1', '+', '2', '+', '3'] := by decide +kernel
    rw [trimmed]
    intro written
    cases written with
    | mixed first => exact first.plus_notMem List.mem_cons_self
    | named listed => exact not_named_of_mem List.mem_cons_self (by decide +kernel) listed
  · have trimmed : trim "+42".toList = ['+', '4', '2'] := by decide +kernel
    rw [trimmed]
    intro written
    cases written with
    | indexed digits_spell => exact digits_spell.plus_notMem List.mem_cons_self
    | named listed => exact not_named_of_mem List.mem_cons_self (by decide +kernel) listed

end Picklist.Theme
