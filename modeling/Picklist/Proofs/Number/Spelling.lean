import Mathlib.Algebra.Group.Nat.Defs
import Mathlib.Data.List.Induction
import Picklist.Number.Decimal
import Picklist.Text.Reader

/-!
# Digits that spell a number

Digits spell a number from left to right: one more digit multiplies what the digits before it spell
by the base and adds its own value. The reader of natural numbers accepts just the texts that spell
a number in this way, and these also with a plus sign in front.
-/

set_option autoImplicit false

namespace Picklist

/-! ## Digits -/

/-- The digits in ascending order, with small letters behind the first ten. -/
def smallDigits : List Char := "0123456789abcdefghijklmnopqrstuvwxyz".toList

/-- The digits in ascending order, with capital letters behind the first ten. -/
def capitalDigits : List Char := "0123456789ABCDEFGHIJKLMNOPQRSTUVWXYZ".toList

/-- A character is the digit of a number below the base. -/
structure IsDigitOf (base value : Nat) (c : Char) : Prop where
  below : value < base
  listed : smallDigits[value]? = some c ∨ capitalDigits[value]? = some c

/-- A listed digit has the value of its place. -/
theorem digitValue?_of_listed {value : Nat} {c : Char}
    (listed : smallDigits[value]? = some c ∨ capitalDigits[value]? = some c) :
    digitValue? 36 c = some value := by
  have small : ∀ v < 36, smallDigits[v]?.all (digitValue? 36 · == some v) := by decide +kernel
  have capital : ∀ v < 36, capitalDigits[v]?.all (digitValue? 36 · == some v) := by decide +kernel
  rcases listed with here | here
  · have bound : value < 36 := (List.getElem?_eq_some_iff.mp here).1
    simpa [here] using small value bound
  · have bound : value < 36 := (List.getElem?_eq_some_iff.mp here).1
    simpa [here] using capital value bound

/-- Digits are ASCII characters, and every digit is one in base 36. -/
theorem digitValue?_bounds {base value : Nat} {c : Char}
    (digit : digitValue? base c = some value) :
    c.toNat < 128 ∧ digitValue? 36 c = some value := by
  unfold digitValue? at digit ⊢
  obtain ⟨raw, -⟩ := Option.filter_eq_some_iff.mp digit
  rw [raw]
  have bounds {low high : Char} (range : low ≤ c ∧ c ≤ high) (start more : Nat)
      (ascii : high.toNat < 128) (few : high.toNat - start + more < 36) :
      c.toNat < 128 ∧ c.toNat - start + more < 36 := by
    have last : c.toNat ≤ high.toNat := range.2
    omega
  split at raw
  · rename_i range
    obtain rfl := Option.some.inj raw
    simpa using bounds range 48 0 (by decide) (by decide)
  · split at raw
    · rename_i range
      obtain rfl := Option.some.inj raw
      simpa using bounds range 97 10 (by decide) (by decide)
    · split at raw
      · rename_i range
        obtain rfl := Option.some.inj raw
        simpa using bounds range 65 10 (by decide) (by decide)
      · cases raw

/-- A digit with a value is listed at that place. -/
theorem listed_of_digitValue? {base value : Nat} {c : Char}
    (digit : digitValue? base c = some value) :
    smallDigits[value]? = some c ∨ capitalDigits[value]? = some c := by
  have few : ∀ n < 128, ∀ v, digitValue? 36 (Char.ofNat n) = some v →
      smallDigits[v]? = some (Char.ofNat n) ∨ capitalDigits[v]? = some (Char.ofNat n) := by
    decide +kernel
  obtain ⟨ascii, raw⟩ := digitValue?_bounds digit
  have among := few c.toNat ascii value
  rw [Char.ofNat_toNat] at among
  exact among raw

/-- The digits of a base are the listed ones below it. -/
theorem digitValue?_eq_some_iff {base value : Nat} {c : Char} :
    digitValue? base c = some value ↔ IsDigitOf base value c := by
  constructor
  · intro digit
    refine ⟨?_, listed_of_digitValue? digit⟩
    unfold digitValue? at digit
    exact of_decide_eq_true (Option.filter_eq_some_iff.mp digit).2
  · rintro ⟨below, listed⟩
    have raw := digitValue?_of_listed listed
    unfold digitValue? at raw ⊢
    rw [Option.filter_eq_some_iff] at raw ⊢
    exact ⟨raw.1, decide_eq_true below⟩

/-- A character is a digit of a base if it has a value there. -/
theorem isDigitIn_iff {base : Nat} {c : Char} :
    isDigitIn base c = true ↔ ∃ value, IsDigitOf base value c := by
  rw [isDigitIn, Option.isSome_iff_exists]
  simp only [digitValue?_eq_some_iff]

/-- Digits are letters and the ten digits; no sign is one. -/
theorem IsDigitOf.mem {base value : Nat} {c : Char} (digit : IsDigitOf base value c) :
    c ∈ smallDigits ++ capitalDigits :=
  List.mem_append.mpr (digit.listed.imp List.mem_of_getElem? List.mem_of_getElem?)

/-! ## Numbers -/

/-- The digits spell the number. -/
inductive Spells (base : Nat) : List Char → Nat → Prop where
  | one {c : Char} {value : Nat} (digit : IsDigitOf base value c) : Spells base [c] value
  | more {cs : List Char} {n : Nat} {c : Char} {value : Nat} (before : Spells base cs n)
    (digit : IsDigitOf base value c) : Spells base (cs ++ [c]) (n * base + value)

/-- The text spells the number by its digits, or by the digits behind a plus sign. -/
def SpellsSigned (base : Nat) (cs : List Char) (n : Nat) : Prop :=
  Spells base cs n ∨ ∃ digits, cs = '+' :: digits ∧ Spells base digits n

/-- One more digit multiplies by the base and adds its value. -/
theorem digitsValue_concat (base : Nat) (cs : List Char) (c : Char) :
    digitsValue base (cs ++ [c]) = digitsValue base cs * base + (digitValue? base c).getD 0 := by
  rw [digitsValue, List.foldl_append]
  rfl

/-- A text spells a number exactly if it is made of digits, and then it spells their value. -/
theorem spells_iff {base n : Nat} {cs : List Char} :
    Spells base cs n ↔ cs ≠ [] ∧ (∀ c ∈ cs, isDigitIn base c = true) ∧ digitsValue base cs = n := by
  constructor
  · intro spells
    induction spells with
    | one digit =>
      refine ⟨List.cons_ne_nil _ _, ?_, ?_⟩
      · rintro c member
        obtain rfl := List.mem_singleton.mp member
        exact isDigitIn_iff.mpr ⟨_, digit⟩
      · simp [digitsValue, digitValue?_eq_some_iff.mpr digit]
    | @more cs n c value _ digit ih =>
      obtain ⟨-, digits, spelled⟩ := ih
      refine ⟨by simp, ?_, ?_⟩
      · intro d member
        rcases List.mem_append.mp member with before | last
        · exact digits d before
        · obtain rfl := List.mem_singleton.mp last
          exact isDigitIn_iff.mpr ⟨_, digit⟩
      · rw [digitsValue_concat, spelled, digitValue?_eq_some_iff.mpr digit, Option.getD_some]
  · rintro ⟨some_digit, digits, rfl⟩
    -- a spelled number grows at its end, so the induction takes the last digit off
    induction cs using List.reverseRecOn with
    | nil => exact absurd rfl some_digit
    | append_singleton cs c ih =>
      obtain ⟨value, digit⟩ := isDigitIn_iff.mp (digits c (by simp))
      rw [digitsValue_concat, digitValue?_eq_some_iff.mpr digit, Option.getD_some]
      by_cases first : cs = []
      · subst first
        simpa [digitsValue] using Spells.one digit
      · exact .more (ih first fun d before => digits d (List.mem_append_left _ before)) digit

/-- A number is spelled with listed digits. -/
theorem Spells.mem {base n : Nat} {cs : List Char} (spells : Spells base cs n) :
    ∀ c ∈ cs, c ∈ smallDigits ++ capitalDigits := by
  intro c member
  obtain ⟨value, digit⟩ := isDigitIn_iff.mp ((spells_iff.mp spells).2.1 c member)
  exact digit.mem

/-- There is no sign among the digits of a number. -/
theorem Spells.plus_notMem {base n : Nat} {cs : List Char} (spells : Spells base cs n) :
    '+' ∉ cs := fun sign => by
  have digit : '+' ∈ smallDigits ++ capitalDigits := spells.mem '+' sign
  revert digit
  decide +kernel

/-- Without a plus sign only digits spell a number. -/
theorem SpellsSigned.spells {base n : Nat} {cs : List Char} (signed : SpellsSigned base cs n)
    (noSign : '+' ∉ cs) : Spells base cs n := by
  rcases signed with spells | ⟨digits, rfl, -⟩
  · exact spells
  · exact absurd List.mem_cons_self noSign

/-- A number with a sign is spelled with digits and a plus. -/
theorem SpellsSigned.mem {base n : Nat} {cs : List Char} (signed : SpellsSigned base cs n) :
    ∀ c ∈ cs, c ∈ '+' :: (smallDigits ++ capitalDigits) := by
  rcases signed with spells | ⟨digits, rfl, spells⟩
  · exact fun c member => List.mem_cons_of_mem _ (spells.mem c member)
  · intro c member
    rcases List.mem_cons.mp member with rfl | behind
    · exact List.mem_cons_self
    · exact List.mem_cons_of_mem _ (spells.mem c behind)

/-- A number is below the power of the base with as many factors as it has digits. -/
theorem Spells.lt_pow {base n : Nat} {cs : List Char} (spells : Spells base cs n) :
    n < base ^ cs.length := by
  induction spells with
  | one digit => simpa using digit.below
  | @more cs n c value _ digit ih =>
    have below := digit.below
    rw [List.length_append, List.length_singleton, Nat.pow_succ]
    calc n * base + value < n * base + base := by omega
      _ = (n + 1) * base := (Nat.succ_mul n base).symm
      _ ≤ base ^ cs.length * base := Nat.mul_le_mul_right base ih

/-- A spelling of some length stands for less than that power of the base. -/
theorem SpellsSigned.lt_pow {base n : Nat} (positive : 0 < base) {cs : List Char}
    (signed : SpellsSigned base cs n) : n < base ^ cs.length := by
  rcases signed with spells | ⟨digits, rfl, spells⟩
  · exact spells.lt_pow
  · exact Nat.lt_of_lt_of_le spells.lt_pow (Nat.pow_le_pow_right positive (Nat.le_succ _))

/-! ## Reading -/

/-- Digits are refused if there are none or a character among them is no digit. -/
theorem spells_digitsValue_iff {base : Nat} {digits : List Char} :
    Spells base digits (digitsValue base digits) ↔
      ¬ (digits.isEmpty || !digits.all (isDigitIn base)) = true := by
  rw [spells_iff]
  simp

/-- Reading digits succeeds on the spellings of numbers up to the largest one. -/
theorem readDigits_eq_some_iff {base largest n : Nat} {digits : List Char} :
    (if digits.isEmpty || !digits.all (isDigitIn base) then none
      else if digitsValue base digits ≤ largest then some (digitsValue base digits) else none) =
        some n ↔ n ≤ largest ∧ Spells base digits n := by
  constructor
  · intro found
    rw [Option.ite_none_left_eq_some, Option.ite_none_right_eq_some, Option.some.injEq] at found
    obtain ⟨accepted, bound, rfl⟩ := found
    exact ⟨bound, spells_digitsValue_iff.mpr accepted⟩
  · rintro ⟨bound, spells⟩
    obtain rfl := (spells_iff.mp spells).2.2
    rw [if_neg (spells_digitsValue_iff.mp spells), if_pos bound]

/-- Numbers up to a bound are read from the texts that spell them, with or without a plus sign. -/
theorem naturalUpTo?_eq_some_iff {base largest n : Nat} {cs : List Char} :
    naturalUpTo? base largest cs = some n ↔ n ≤ largest ∧ SpellsSigned base cs n := by
  unfold naturalUpTo?
  split
  · rename_i rest
    rw [readDigits_eq_some_iff]
    apply and_congr_right
    intro _
    constructor
    · exact fun spells => .inr ⟨rest, rfl, spells⟩
    · rintro (spells | ⟨digits, same, spells⟩)
      · exact absurd List.mem_cons_self spells.plus_notMem
      · rwa [List.cons_eq_cons.mp same |>.2]
  · rename_i noSign
    rw [readDigits_eq_some_iff]
    apply and_congr_right
    intro _
    constructor
    · exact .inl
    · rintro (spells | ⟨digits, rfl, -⟩)
      · exact spells
      · exact absurd rfl (noSign digits)

/-- A run ends where the characters of its class do. -/
theorem Reader.run_append {belongs : Char → Bool} {cs rest : List Char}
    (all : ∀ c ∈ cs, belongs c = true)
    (stops : ∀ c, rest.head? = some c → belongs c = false) :
    Reader.run belongs (cs ++ rest) = (cs, rest) := by
  rw [Reader.run, List.takeWhile_append_of_pos all, List.dropWhile_append_of_pos all]
  cases rest with
  | nil => simp
  | cons c rest => simp [stops c rfl]

end Picklist
