import Mathlib.Algebra.Group.Nat.Defs
import Mathlib.Tactic.SplitIfs
import Picklist.Unicode.Utf8

/-!
# Texts survive as bytes

The bytes that spell a text are read as this text. A character takes one to four bytes, and the
first one tells how many; no character takes more bytes than it needs and none is a surrogate, which
is what the bounds of the second byte are about.
-/

set_option autoImplicit false

namespace Picklist.Unicode

/-- The codes of characters leave the surrogates out. -/
theorem code_bounds (c : Char) :
    c.toNat < 0xD800 ∨ 0xDFFF < c.toNat ∧ c.toNat < 0x110000 := c.valid

/-! ## Bytes -/

/-- A byte behind the first one of a character holds six bits of its code. -/
def laterByte (code : Nat) : UInt8 := UInt8.ofNat (code % 0x40 + 0x80)

/-- A number below 256 is the value of its byte. -/
theorem toNat_ofNat_of_lt {n : Nat} (byte : n < 0x100) : (UInt8.ofNat n).toNat = n := by
  rw [UInt8.toNat_ofNat']
  omega

/-- A later byte is the six lowest bits of the code, marked by the bit above them. -/
theorem toNat_laterByte (code : Nat) : (laterByte code).toNat = code % 64 + 128 :=
  toNat_ofNat_of_lt (by omega)

/-- A byte within the bounds adds its bits to the code. -/
theorem laterBytes_cons {least greatest before code next taken count : Nat} {c : Option Char}
    {rest : List UInt8} (low : least ≤ code % 64 + 128) (high : code % 64 + 128 ≤ greatest)
    (joined : before * 64 + code % 64 = next)
    (found : laterBytes count next (0x80, 0xBF) rest = (c, taken)) :
    laterBytes (count + 1) before (least, greatest) (laterByte code :: rest) = (c, taken + 1) := by
  have bits : (code % 64 + 128) % 64 = code % 64 := by omega
  rw [laterBytes, toNat_laterByte, if_pos ⟨low, high⟩, bits, joined, found]

/-- The last byte completes the code of the character. -/
theorem laterBytes_last {least greatest before : Nat} (c : Char) (rest : List UInt8)
    (low : least ≤ c.toNat % 64 + 128) (high : c.toNat % 64 + 128 ≤ greatest)
    (before_eq : before = c.toNat / 64) :
    laterBytes 1 before (least, greatest) (laterByte c.toNat :: rest) = (some c, 1) := by
  have joined : before * 64 + c.toNat % 64 = c.toNat := by omega
  refine laterBytes_cons low high joined ?_
  rw [laterBytes, Char.ofNat_toNat]

/-- The first byte of a longer character tells how many there are and what the second one may be. -/
theorem decodePieces_long {fuel count lead least greatest : Nat} {c : Char}
    {later rest : List UInt8} (byte : lead < 0x100)
    (start : leadByte? lead = some ((least, greatest), count))
    (found : laterBytes count (lead % 2 ^ (6 - count)) (least, greatest) (later ++ rest) =
      (some c, later.length)) :
    decodePieces (fuel + 1) (UInt8.ofNat lead :: later ++ rest) =
      some c :: decodePieces fuel rest := by
  have noAscii : ¬ lead < 0x80 := by
    intro ascii
    rw [leadByte?, if_pos (by omega)] at start
    cases start
  rw [List.cons_append, decodePieces, toNat_ofNat_of_lt byte, if_neg noAscii, start]
  -- the reader spells the power as `Nat.pow`
  have taken : laterBytes count (lead % Nat.pow 2 (6 - count)) (least, greatest) (later ++ rest) =
      (some c, later.length) := found
  simp only [taken, List.drop_left]

/-! ## Characters -/

/-- The first byte of a character of two bytes announces one more. -/
theorem leadByte?_two {code : Nat} (low : 0x80 ≤ code) (high : code < 0x800) :
    leadByte? (code / 64 % 0x20 + 0xC0) = some ((0x80, 0xBF), 1) := by
  unfold leadByte?
  rw [if_neg (by omega), if_pos (by omega)]

/-- The second of three bytes keeps its bounds, since the character needs three bytes and is no
surrogate. -/
theorem leadByte?_three {c : Char} (low : 0x800 ≤ c.toNat) (high : c.toNat < 0x10000) :
    ∃ least greatest, leadByte? (c.toNat / 4096 % 0x10 + 0xE0) = some ((least, greatest), 2) ∧
      least ≤ c.toNat / 64 % 64 + 128 ∧ c.toNat / 64 % 64 + 128 ≤ greatest := by
  have bounds := code_bounds c
  unfold leadByte?
  rw [if_neg (by omega), if_neg (by omega)]
  split_ifs
  any_goals omega
  all_goals exact ⟨_, _, rfl, by omega, by omega⟩

/-- The second of four bytes keeps its bounds, since the character needs four bytes and there is a
last code. -/
theorem leadByte?_four {c : Char} (low : 0x10000 ≤ c.toNat) :
    ∃ least greatest, leadByte? (c.toNat / 262144 % 0x08 + 0xF0) = some ((least, greatest), 3) ∧
      least ≤ c.toNat / 4096 % 64 + 128 ∧ c.toNat / 4096 % 64 + 128 ≤ greatest := by
  have bounds := code_bounds c
  unfold leadByte?
  rw [if_neg (by omega), if_neg (by omega), if_neg (by omega), if_neg (by omega),
    if_neg (by omega)]
  split_ifs
  any_goals omega
  all_goals exact ⟨_, _, rfl, by omega, by omega⟩

/-- The bytes of a character are read as this character. -/
theorem decodePieces_utf8EncodeChar (fuel : Nat) (c : Char) (rest : List UInt8) :
    decodePieces (fuel + 1) (String.utf8EncodeChar c ++ rest) =
      some c :: decodePieces fuel rest := by
  have bounds := code_bounds c
  have code : c.val.toNat = c.toNat := rfl
  unfold String.utf8EncodeChar
  simp only [code, ← laterByte.eq_def]
  split_ifs with one two three
  · have byte : (UInt8.ofNat c.toNat).toNat = c.toNat := toNat_ofNat_of_lt (by omega)
    rw [List.singleton_append, decodePieces, byte, if_pos (by omega), Char.ofNat_toNat]
  · refine decodePieces_long (by omega) (leadByte?_two (by omega) (by omega)) ?_
    exact laterBytes_last c rest (by omega) (by omega) (by omega)
  · obtain ⟨least, greatest, lead, low, high⟩ :=
      leadByte?_three (c := c) (by omega) (by omega)
    refine decodePieces_long (by omega) lead (laterBytes_cons low high rfl ?_)
    exact laterBytes_last c rest (by omega) (by omega) (by omega)
  · obtain ⟨least, greatest, lead, low, high⟩ := leadByte?_four (c := c) (by omega)
    refine decodePieces_long (by omega) lead (laterBytes_cons low high rfl ?_)
    refine laterBytes_cons (by omega) (by omega) rfl ?_
    exact laterBytes_last c rest (by omega) (by omega) (by omega)

/-! ## Texts -/

/-- The bytes of a text are read as its characters, all of them. -/
theorem decodePieces_encode {fuel : Nat} {cs : List Char} (enough : cs.length ≤ fuel) :
    decodePieces fuel (encode cs) = cs.map some := by
  induction cs generalizing fuel with
  | nil => cases fuel <;> rfl
  | cons c cs ih =>
    obtain ⟨fuel, rfl⟩ := Nat.exists_eq_add_one.mpr (Nat.zero_lt_of_lt enough)
    rw [encode, List.flatMap_cons, decodePieces_utf8EncodeChar, ← encode.eq_def,
      ih (Nat.le_of_succ_le_succ enough), List.map_cons]

/-- A text has at least as many bytes as characters. -/
theorem length_le_length_encode (cs : List Char) : cs.length ≤ (encode cs).length := by
  induction cs with
  | nil => exact Nat.zero_le _
  | cons c cs ih =>
    have one := List.length_pos_iff.mpr (String.utf8EncodeChar_ne_nil (c := c))
    rw [encode, List.flatMap_cons, List.length_append, ← encode.eq_def, List.length_cons]
    omega

/-- Every text is read back from the bytes that spell it. -/
theorem decodeLossy_encode (cs : List Char) : decodeLossy (encode cs) = String.ofList cs := by
  rw [decodeLossy, decodePieces_encode (length_le_length_encode cs), List.map_map]
  congr 1
  exact List.map_id cs

end Picklist.Unicode
