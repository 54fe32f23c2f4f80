import Picklist.Proofs.Number.Spelling
import Picklist.Settings.Environment

/-!
# Guessing what a variable holds

The text of a variable counts as a truth value or as a number where it spells one, and where such a
setting is a text, the value is written down again. So a text comes out as the spelling that the
program itself has for it: `TRUE` as `true`, `007` as `7`, and `1.50` as `1.5`. All other texts come
out as they are.
-/

set_option autoImplicit false

namespace Picklist.Settings

/-! ## Spelled numbers -/

/-- The text spells a whole number: digits, with a sign in front of them or without one. -/
inductive SpellsWhole : List Char → Int → Prop where
  | plain {digits : List Char} {n : Nat} (spells : Spells 10 digits n) : SpellsWhole digits n
  | plus {digits : List Char} {n : Nat} (spells : Spells 10 digits n) :
    SpellsWhole ('+' :: digits) n
  | minus {digits : List Char} {n : Nat} (spells : Spells 10 digits n) :
    SpellsWhole ('-' :: digits) (-(n : Int))

/-- The text is an exponent: nothing, or a letter with a whole number behind it. -/
inductive SpellsExponent : List Char → Int → Prop where
  | nothing : SpellsExponent [] 0
  | written {letter : Char} {cs : List Char} {n : Int} (power : letter = 'e' ∨ letter = 'E')
    (spells : SpellsWhole cs n) : SpellsExponent (letter :: cs) n

/-- The text spells the size of a floating point number: a word, where the case of letters does not
count, or digits with a point somewhere and an exponent behind them. -/
inductive SpellsSize (negative : Bool) : List Char → Binary → Prop where
  | infinite {cs : List Char}
    (word : asciiLower (String.ofList cs) = "inf" ∨ asciiLower (String.ofList cs) = "infinity") :
    SpellsSize negative cs (.infinite negative)
  | notANumber {cs : List Char} (word : asciiLower (String.ofList cs) = "nan") :
    SpellsSize negative cs .notANumber
  | decimal {whole point fraction power : List Char} {exponent : Int}
    (digits : ∀ c ∈ whole ++ fraction, c.isDigit = true) (some_digit : whole ++ fraction ≠ [])
    (pointed : point = ['.'] ∨ point = [] ∧ fraction = [])
    (spells : SpellsExponent power exponent) :
    SpellsSize negative (whole ++ point ++ fraction ++ power)
      (Binary.ofDecimal (decimalOfParts negative whole fraction exponent))

/-- The text spells a floating point number, with a sign or without one. -/
inductive SpellsFloat : List Char → Binary → Prop where
  | plain {cs : List Char} {x : Binary} (spells : SpellsSize false cs x) : SpellsFloat cs x
  | plus {cs : List Char} {x : Binary} (spells : SpellsSize false cs x) :
    SpellsFloat ('+' :: cs) x
  | minus {cs : List Char} {x : Binary} (spells : SpellsSize true cs x) :
    SpellsFloat ('-' :: cs) x

/-! ## Reading whole numbers -/

/-- The digits of a text are those in base ten. -/
theorem isDigit_eq_isDigitIn (c : Char) : c.isDigit = isDigitIn 10 c := by
  by_cases ascii : c.toNat < 128
  · have few : ∀ n < 128, (Char.ofNat n).isDigit = isDigitIn 10 (Char.ofNat n) := by
      decide +kernel
    rw [← Char.ofNat_toNat c]
    exact few c.toNat ascii
  · have noDigit : isDigitIn 10 c = false := by
      rw [isDigitIn, Option.isSome_eq_false_iff, Option.isNone_iff_eq_none]
      cases value : digitValue? 10 c with
      | none => rfl
      | some n => exact absurd (digitValue?_bounds value).1 ascii
    rw [noDigit]
    by_contra digit
    have last : c.toNat ≤ 57 := (Char.isDigit_iff_toNat.mp (by simpa using digit)).2
    omega

/-- Reads digits, and answers with what their number stands for. -/
def readWhole? (meaning : Nat → Int) (digits : List Char) : Option Int :=
  if digits.isEmpty || !digits.all Char.isDigit then none
  else some (meaning (digitsValue 10 digits))

/-- Whole numbers are read from the spellings in base ten. -/
theorem readWhole?_eq_some_iff {meaning : Nat → Int} {digits : List Char} {n : Int} :
    readWhole? meaning digits = some n ↔ ∃ m, Spells 10 digits m ∧ meaning m = n := by
  rw [readWhole?, funext isDigit_eq_isDigitIn, Option.ite_none_left_eq_some, Option.some.injEq,
    ← spells_digitsValue_iff]
  constructor
  · rintro ⟨spells, same⟩
    exact ⟨_, spells, same⟩
  · rintro ⟨m, spells, same⟩
    obtain rfl := (spells_iff.mp spells).2.2
    exact ⟨spells, same⟩

/-- There is no sign among digits. -/
theorem sign_notMem {digits : List Char} {n : Nat} {c : Char} (spells : Spells 10 digits n)
    (sign : c = '+' ∨ c = '-') : c ∉ digits := by
  intro member
  have digit := spells.mem c member
  rcases sign with rfl | rfl
  · revert digit
    decide +kernel
  · revert digit
    decide +kernel

/-- Exponents are read from the spellings of whole numbers. -/
theorem exponent?_eq_some_iff {cs : List Char} {n : Int} :
    exponent? cs = some n ↔ SpellsWhole cs n := by
  unfold exponent?
  dsimp only
  split
  · rename_i digits
    change readWhole? (fun m => (m : Int)) digits = some n ↔ _
    rw [readWhole?_eq_some_iff]
    constructor
    · rintro ⟨m, spells, rfl⟩
      exact .plus spells
    · rintro (spells | spells | spells)
      · exact absurd List.mem_cons_self (sign_notMem spells (.inl rfl))
      · exact ⟨_, spells, rfl⟩
  · rename_i digits
    change readWhole? (fun m => -(m : Int)) digits = some n ↔ _
    rw [readWhole?_eq_some_iff]
    constructor
    · rintro ⟨m, spells, rfl⟩
      exact .minus spells
    · rintro (spells | spells | spells)
      · exact absurd List.mem_cons_self (sign_notMem spells (.inr rfl))
      · exact ⟨_, spells, rfl⟩
  · rename_i noPlus noMinus
    change readWhole? (fun m => (m : Int)) cs = some n ↔ _
    rw [readWhole?_eq_some_iff]
    constructor
    · rintro ⟨m, spells, rfl⟩
      exact .plain spells
    · rintro (spells | spells | spells)
      · exact ⟨_, spells, rfl⟩
      · exact absurd rfl (noPlus _)
      · exact absurd rfl (noMinus _)

/-- Whole numbers of variables have at most 64 bits. -/
theorem wholeNumber?_eq_filter (cs : List Char) : wholeNumber? cs =
    (exponent? cs).filter fun n => decide (leastInteger ≤ n ∧ n ≤ greatestInteger) := by
  unfold wholeNumber? exponent?
  dsimp only
  split
  all_goals
    dsimp only
    split
    · rfl
    · rw [Option.filter_some]
      simp only [decide_eq_true_eq]

/-! ## Reading floating point numbers -/

/-- Reads what stands behind the digits of a number. -/
def exponentOf? : List Char → Option Int
  | [] => some 0
  | letter :: rest => if letter = 'e' ∨ letter = 'E' then exponent? rest else none

/-- An exponent is read where one is spelled, and is zero where there is none. -/
theorem exponentOf?_eq_some_iff {cs : List Char} {n : Int} :
    exponentOf? cs = some n ↔ SpellsExponent cs n := by
  cases cs with
  | nil =>
    constructor
    · intro zero
      obtain rfl := Option.some.inj zero
      exact .nothing
    · rintro ⟨⟩
      rfl
  | cons letter cs =>
    rw [exponentOf?, Option.ite_none_right_eq_some, exponent?_eq_some_iff]
    constructor
    · exact fun ⟨power, spells⟩ => .written power spells
    · rintro (_ | ⟨power, spells⟩)
      exact ⟨power, spells⟩

/-- The number with the given digits and what stands behind them. -/
def sizeOfParts? (negative : Bool) (whole fraction power : List Char) : Option Binary :=
  if whole.isEmpty && fraction.isEmpty then none
  else (exponentOf? power).map fun exponent =>
    Binary.ofDecimal (decimalOfParts negative whole fraction exponent)

/-- A number in parts is read if it has a digit and its exponent is spelled. -/
theorem sizeOfParts?_eq_some_iff {negative : Bool} {whole fraction power : List Char} {x : Binary} :
    sizeOfParts? negative whole fraction power = some x ↔ whole ++ fraction ≠ [] ∧
      ∃ exponent, SpellsExponent power exponent ∧
        Binary.ofDecimal (decimalOfParts negative whole fraction exponent) = x := by
  rw [sizeOfParts?, Option.ite_none_left_eq_some, Option.map_eq_some_iff]
  simp only [exponentOf?_eq_some_iff]
  simp

/-- A word that stands for a floating point number. -/
def IsFloatWord (cs : List Char) : Prop :=
  asciiLower (String.ofList cs) ∈ ["inf", "infinity", "nan"]

/-- The words for numbers begin with i or n. -/
theorem initial_of_isFloatWord {c : Char} {cs : List Char} (word : IsFloatWord (c :: cs)) :
    c.toLower = 'i' ∨ c.toLower = 'n' := by
  have initials : ∀ name ∈ ["inf", "infinity", "nan"],
      name.toList.head? = some 'i' ∨ name.toList.head? = some 'n' := by
    decide
  have first : (asciiLower (String.ofList (c :: cs))).toList.head? = some c.toLower := by
    simp [asciiLower]
  have initial := initials _ word
  rwa [first, Option.some.injEq, Option.some.injEq] at initial

/-- Numbers in digits start with other characters than words. -/
theorem toLower_notMem_of_numeral {c : Char} (numeral : c.isDigit = true ∨ c ∈ ['.', '+', '-']) :
    c.toLower ∉ ['i', 'n', 't', 'f'] := by
  have few : ∀ n < 128, (Char.ofNat n).isDigit = true ∨ Char.ofNat n ∈ ['.', '+', '-'] →
      (Char.ofNat n).toLower ∉ ['i', 'n', 't', 'f'] := by
    decide +kernel
  have ascii : c.toNat < 128 := by
    rcases numeral with digit | sign
    · have last : c.toNat ≤ 57 := (Char.isDigit_iff_toNat.mp digit).2
      omega
    · simp only [List.mem_cons, List.not_mem_nil, or_false] at sign
      rcases sign with rfl | rfl | rfl <;> decide
  have apart := few c.toNat ascii
  rw [Char.ofNat_toNat] at apart
  exact apart numeral

/-- What begins like a numeral is no word for a number. -/
theorem not_isFloatWord_of_numeral {c : Char} (cs : List Char)
    (numeral : c.isDigit = true ∨ c ∈ ['.', '+', '-']) : ¬ IsFloatWord (c :: cs) := by
  intro word
  apply toLower_notMem_of_numeral numeral
  rcases initial_of_isFloatWord word with initial | initial <;> simp [initial]

/-- Takes the digits behind a point, if there is one. -/
def fractionOf : List Char → List Char × List Char
  | '.' :: rest => Reader.run Char.isDigit rest
  | rest => ([], rest)

/-- Where there is no point there is no fraction. -/
theorem fractionOf_of_no_point {rest : List Char} (noPoint : ∀ later, rest ≠ '.' :: later) :
    fractionOf rest = ([], rest) := by
  unfold fractionOf
  split
  · exact absurd rfl (noPoint _)
  · rfl

/-- A number in parts is read from its exponent, if it has a digit at all. -/
theorem sizeOfParts?_eq (negative : Bool) (whole fraction power : List Char) :
    sizeOfParts? negative whole fraction power =
      if whole.isEmpty && fraction.isEmpty then none
      else (do
        let exponent ← match power with
          | [] => some 0
          | letter :: rest => if letter = 'e' ∨ letter = 'E' then exponent? rest else none
        some (Binary.ofDecimal (decimalOfParts negative whole fraction exponent))) := by
  rw [sizeOfParts?]
  split
  · rfl
  · cases power with
    | nil => rfl
    | cons letter rest =>
      dsimp only [exponentOf?]
      split
      · cases exponent? rest <;> rfl
      · rfl

/-- What is no word is read as digits with a point somewhere. -/
theorem unsignedFloat?_of_not_word {cs : List Char} (noWord : ¬ IsFloatWord cs) (negative : Bool) :
    unsignedFloat? negative cs =
      sizeOfParts? negative (cs.takeWhile Char.isDigit) (fractionOf (cs.dropWhile Char.isDigit)).1
        (fractionOf (cs.dropWhile Char.isDigit)).2 := by
  rw [sizeOfParts?_eq]
  unfold unsignedFloat?
  split
  · rename_i word
    exact absurd (by simp [IsFloatWord, word]) noWord
  · rename_i word
    exact absurd (by simp [IsFloatWord, word]) noWord
  · rename_i word
    exact absurd (by simp [IsFloatWord, word]) noWord
  · dsimp only [Reader.run]
    split
    · rename_i pointed
      rw [pointed]
      rfl
    · rename_i noPoint
      -- the rest behind the digits stays in the match on the exponent; only the parts are replaced
      have none := fractionOf_of_no_point noPoint
      generalize fractionOf (cs.dropWhile Char.isDigit) = parts at none ⊢
      subst none
      rfl

/-- The digits of a number end before its exponent. -/
theorem SpellsExponent.stops {power : List Char} {exponent : Int}
    (spells : SpellsExponent power exponent) :
    ∀ c, power.head? = some c → c.isDigit = false ∧ c ≠ '.' := by
  intro c first
  cases spells with
  | nothing => cases first
  | written letter =>
    obtain rfl := Option.some.inj first
    rcases letter with rfl | rfl <;> decide

/-- The digits in front of a text are digits. -/
theorem takeWhile_isDigit (cs : List Char) : ∀ c ∈ cs.takeWhile Char.isDigit, c.isDigit = true :=
  fun _ member => List.all_eq_true.mp List.all_takeWhile _ member

/-- What stands behind the first digits of a number is its point, more digits, and its exponent. -/
theorem fractionOf_spec (rest : List Char) :
    ∃ point, rest = point ++ (fractionOf rest).1 ++ (fractionOf rest).2 ∧
      (∀ c ∈ (fractionOf rest).1, c.isDigit = true) ∧
      (point = ['.'] ∨ point = [] ∧ (fractionOf rest).1 = []) := by
  unfold fractionOf
  split
  · rename_i digits
    refine ⟨['.'], ?_, takeWhile_isDigit digits, .inl rfl⟩
    rw [Reader.run, List.singleton_append, List.cons_append, List.takeWhile_append_dropWhile]
  · exact ⟨[], rfl, by simp, .inr ⟨rfl, rfl⟩⟩

/-- The fraction behind a point is cut off where its digits end. -/
theorem fractionOf_append {point fraction power : List Char}
    (digits : ∀ c ∈ fraction, c.isDigit = true)
    (pointed : point = ['.'] ∨ point = [] ∧ fraction = [])
    (stops : ∀ c, power.head? = some c → c.isDigit = false ∧ c ≠ '.') :
    fractionOf (point ++ (fraction ++ power)) = (fraction, power) := by
  rcases pointed with rfl | ⟨rfl, rfl⟩
  · exact Reader.run_append digits fun c first => (stops c first).1
  · refine fractionOf_of_no_point ?_
    rintro later same
    refine (stops '.' ?_).2 rfl
    rw [List.nil_append, List.nil_append] at same
    rw [same, List.head?_cons]

/-- A number in digits starts with a digit or with its point. -/
theorem not_isFloatWord_of_parts {whole point fraction power : List Char}
    (digits : ∀ c ∈ whole ++ fraction, c.isDigit = true) (some_digit : whole ++ fraction ≠ [])
    (pointed : point = ['.'] ∨ point = [] ∧ fraction = []) :
    ¬ IsFloatWord (whole ++ (point ++ (fraction ++ power))) := by
  cases whole with
  | cons c whole => exact not_isFloatWord_of_numeral _ (.inl (digits c List.mem_cons_self))
  | nil =>
    rcases pointed with rfl | ⟨-, rfl⟩
    · exact not_isFloatWord_of_numeral _ (.inr List.mem_cons_self)
    · exact absurd rfl some_digit

/-- Numbers without a sign are read from their spellings. -/
theorem unsignedFloat?_eq_some_iff {negative : Bool} {cs : List Char} {x : Binary} :
    unsignedFloat? negative cs = some x ↔ SpellsSize negative cs x := by
  constructor
  · intro read
    by_cases word : IsFloatWord cs
    · simp only [IsFloatWord, List.mem_cons, List.not_mem_nil, or_false] at word
      rcases word with word | word | word
      · obtain rfl : Binary.infinite negative = x := by simpa [unsignedFloat?, word] using read
        exact .infinite (.inl word)
      · obtain rfl : Binary.infinite negative = x := by simpa [unsignedFloat?, word] using read
        exact .infinite (.inr word)
      · obtain rfl : Binary.notANumber = x := by simpa [unsignedFloat?, word] using read
        exact .notANumber word
    · rw [unsignedFloat?_of_not_word word, sizeOfParts?_eq_some_iff] at read
      obtain ⟨some_digit, exponent, spells, rfl⟩ := read
      obtain ⟨point, parts, digits, pointed⟩ := fractionOf_spec (cs.dropWhile Char.isDigit)
      have allDigits : ∀ c ∈ cs.takeWhile Char.isDigit ++
          (fractionOf (cs.dropWhile Char.isDigit)).1, c.isDigit = true := fun c member =>
        (List.mem_append.mp member).elim (takeWhile_isDigit cs c) (digits c)
      have decimal : SpellsSize negative _ _ := .decimal allDigits some_digit pointed spells
      rwa [List.append_assoc, List.append_assoc, ← List.append_assoc point, ← parts,
        List.takeWhile_append_dropWhile] at decimal
  · intro spells
    cases spells with
    | infinite word => rcases word with word | word <;> simp [unsignedFloat?, word]
    | notANumber word => simp [unsignedFloat?, word]
    | @decimal whole point fraction power exponent digits some_digit pointed spells =>
      have wholeDigits : ∀ c ∈ whole, c.isDigit = true := fun c member =>
        digits c (List.mem_append_left fraction member)
      have found := fractionOf_append
        (fun c member => digits c (List.mem_append_right whole member)) pointed spells.stops
      have split : Reader.run Char.isDigit (whole ++ (point ++ (fraction ++ power))) =
          (whole, point ++ (fraction ++ power)) := by
        refine Reader.run_append wholeDigits ?_
        rcases pointed with rfl | ⟨rfl, rfl⟩
        · rintro c first
          obtain rfl := Option.some.inj first
          rfl
        · exact fun c first => (spells.stops c first).1
      obtain ⟨front, behind⟩ := Prod.mk.inj split
      rw [List.append_assoc, List.append_assoc,
        unsignedFloat?_of_not_word (not_isFloatWord_of_parts digits some_digit pointed), front,
        behind, found]
      exact sizeOfParts?_eq_some_iff.mpr ⟨some_digit, exponent, spells, rfl⟩

/-- A size starts with a digit, with a point, or as a word does. -/
theorem not_spellsSize_of_first {negative : Bool} {c : Char} {cs : List Char} {x : Binary}
    (noDigit : c.isDigit = false) (noPoint : c ≠ '.') (noWord : ¬ IsFloatWord (c :: cs)) :
    ¬ SpellsSize negative (c :: cs) x := by
  intro spells
  rw [← unsignedFloat?_eq_some_iff, unsignedFloat?_of_not_word noWord,
    List.takeWhile_cons_of_neg (by simp [noDigit]), List.dropWhile_cons_of_neg (by simp [noDigit]),
    fractionOf_of_no_point (by simp [noPoint])] at spells
  cases spells

/-- What has no sign of its own is not spelled with one. -/
theorem not_spellsSize_of_sign {negative : Bool} {c : Char} {cs : List Char} {x : Binary}
    (sign : c = '+' ∨ c = '-') : ¬ SpellsSize negative (c :: cs) x := by
  have numeral : c ∈ ['.', '+', '-'] := by rcases sign with rfl | rfl <;> decide
  refine not_spellsSize_of_first ?_ ?_ (not_isFloatWord_of_numeral cs (.inr numeral))
  · rcases sign with rfl | rfl <;> decide
  · rcases sign with rfl | rfl <;> decide

/-- Floating point numbers are read from the texts that spell them. -/
theorem floatNumber?_eq_some_iff {cs : List Char} {x : Binary} :
    floatNumber? cs = some x ↔ SpellsFloat cs x := by
  unfold floatNumber?
  split
  · rename_i rest
    rw [unsignedFloat?_eq_some_iff]
    constructor
    · exact .plus
    · rintro (spells | spells | spells)
      · exact absurd spells (not_spellsSize_of_sign (.inl rfl))
      · exact spells
  · rename_i rest
    rw [unsignedFloat?_eq_some_iff]
    constructor
    · exact .minus
    · rintro (spells | spells | spells)
      · exact absurd spells (not_spellsSize_of_sign (.inr rfl))
      · exact spells
  · rename_i noPlus noMinus
    rw [unsignedFloat?_eq_some_iff]
    constructor
    · exact .plain
    · rintro (spells | spells | spells)
      · exact spells
      · exact absurd rfl (noPlus _)
      · exact absurd rfl (noMinus _)

/-! ## Guessing -/

/-- The text spells a truth value or a number, which is written down as the second text. -/
inductive Restated (text : String) : String → Prop where
  | truth (word : asciiLower text = "true") : Restated text "true"
  | falsehood (word : asciiLower text = "false") : Restated text "false"
  | whole {n : Int} (spells : SpellsWhole text.toList n) (least : leastInteger ≤ n)
    (greatest : n ≤ greatestInteger) : Restated text (toString n)
  | float {x : Binary} (spells : SpellsFloat text.toList x)
    (noWhole : ∀ n, SpellsWhole text.toList n → ¬ (leastInteger ≤ n ∧ n ≤ greatestInteger)) :
    Restated text x.text

/-- Whole numbers are read from their spellings, within the range of stored ones. -/
theorem wholeNumber?_eq_some_iff {cs : List Char} {n : Int} : wholeNumber? cs = some n ↔
    SpellsWhole cs n ∧ leastInteger ≤ n ∧ n ≤ greatestInteger := by
  rw [wholeNumber?_eq_filter, Option.filter_eq_some_iff, exponent?_eq_some_iff, decide_eq_true_eq]

/-- The words for truth values spell no number. -/
theorem not_spells_of_truth {text : String}
    (word : asciiLower text = "true" ∨ asciiLower text = "false") :
    (∀ n, ¬ SpellsWhole text.toList n) ∧ ∀ x, ¬ SpellsFloat text.toList x := by
  obtain ⟨c, cs, same, letter⟩ :
      ∃ c cs, text.toList = c :: cs ∧ (c.toLower = 't' ∨ c.toLower = 'f') := by
    have chars : text.toList.map Char.toLower = "true".toList ∨
        text.toList.map Char.toLower = "false".toList := by
      refine word.imp ?_ ?_ <;>
        exact fun word => by rw [← word, asciiLower, String.toList_ofList]
    cases same : text.toList with
    | nil =>
      rw [same] at chars
      exact absurd chars (by decide)
    | cons c cs =>
      rw [same, List.map_cons] at chars
      exact ⟨c, cs, rfl, chars.imp (fun first => (List.cons.inj first).1)
        fun first => (List.cons.inj first).1⟩
  have noNumeral : ¬ (c.isDigit = true ∨ c ∈ ['.', '+', '-']) := fun numeral =>
    toLower_notMem_of_numeral numeral (by rcases letter with letter | letter <;> simp [letter])
  simp only [List.mem_cons, List.not_mem_nil, or_false, not_or, Bool.not_eq_true] at noNumeral
  obtain ⟨noDigit, noPoint, noPlus, noMinus⟩ := noNumeral
  have noWord : ¬ IsFloatWord (c :: cs) := by
    intro word
    have initial := initial_of_isFloatWord word
    rcases letter with letter | letter <;> simp [letter] at initial
  rw [same]
  constructor
  · rintro n (spells | spells | spells)
    · have digit := (spells_iff.mp spells).2.1 c List.mem_cons_self
      rw [← isDigit_eq_isDigitIn, noDigit] at digit
      cases digit
    · exact noPlus rfl
    · exact noMinus rfl
  · rintro x (spells | spells | spells)
    · exact not_spellsSize_of_first noDigit noPoint noWord spells
    · exact noPlus rfl
    · exact noMinus rfl

/-- What is no word for a truth value counts as a number if it is one. -/
theorem guessValue_of_not_truth {text : String}
    (noWord : ¬ (asciiLower text = "true" ∨ asciiLower text = "false")) :
    guessValue text = match wholeNumber? text.toList with
      | some n => .integer n
      | none => match floatNumber? text.toList with
        | some x => .float x
        | none => .string text := by
  unfold guessValue
  split
  · rename_i word
    exact absurd (.inl word) noWord
  · rename_i word
    exact absurd (.inr word) noWord
  · rfl

/-- A text that spells a truth value or a number counts as one. -/
theorem toText?_guessValue_of_restated {text written : String} (restated : Restated text written) :
    (guessValue text).toText? = some written := by
  cases restated with
  | truth word => simp [guessValue, word, Value.toText?]
  | falsehood word => simp [guessValue, word, Value.toText?]
  | @whole n spells least greatest =>
    rw [guessValue_of_not_truth fun word => (not_spells_of_truth word).1 n spells,
      wholeNumber?_eq_some_iff.mpr ⟨spells, least, greatest⟩]
    rfl
  | @float x spells noWhole =>
    have none : wholeNumber? text.toList = none := by
      rw [Option.eq_none_iff_forall_ne_some]
      intro n whole
      obtain ⟨spells, bounds⟩ := wholeNumber?_eq_some_iff.mp whole
      exact noWhole n spells bounds
    rw [guessValue_of_not_truth fun word => (not_spells_of_truth word).2 x spells, none,
      floatNumber?_eq_some_iff.mpr spells]
    rfl

/-- All other texts stay texts. -/
theorem guessValue_of_not_restated {text : String} (other : ∀ written, ¬ Restated text written) :
    guessValue text = .string text := by
  unfold guessValue
  split
  · rename_i word
    exact absurd (.truth word) (other _)
  · rename_i word
    exact absurd (.falsehood word) (other _)
  · split
    · rename_i n whole
      obtain ⟨spells, least, greatest⟩ := wholeNumber?_eq_some_iff.mp whole
      exact absurd (.whole spells least greatest) (other _)
    · rename_i noWhole
      split
      · rename_i x float
        refine absurd (.float (floatNumber?_eq_some_iff.mp float) ?_) (other _)
        rintro n spells bounds
        rw [wholeNumber?_eq_some_iff.mpr ⟨spells, bounds⟩] at noWhole
        cases noWhole
      · rfl

end Picklist.Settings
