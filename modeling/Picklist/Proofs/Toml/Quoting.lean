import Picklist.Proofs.Number.Spelling
import Picklist.Toml.Document

/-!
# Quoted texts and the documents that hold them

Every text has a basic string that denotes it: characters that may not stand for themselves are
given by eight hexadecimal digits. A document of one header and one entry with a quoted text, in
whatever way that is written, is read as a table with this text.
-/

set_option autoImplicit false

namespace Picklist.Toml

/-! ## Writing basic strings -/

/-- The last digits of a code in hexadecimal notation, as many as asked for. -/
def codeDigits : Nat → Nat → List Char
  | 0, _ => []
  | places + 1, code => codeDigits places (code / 16) ++ [Nat.digitChar (code % 16)]

/-- A character within a basic string. -/
def escaped (c : Char) : List Char :=
  if isPlain c ∧ c ≠ '\x22' ∧ c ≠ '\\' then [c] else '\\' :: 'U' :: codeDigits 8 c.toNat

/-- A basic string that denotes a text. -/
def basicString (cs : List Char) : List Char := '\x22' :: (cs.flatMap escaped ++ ['\x22'])

/-- As many digits are written as asked for. -/
theorem length_codeDigits (places code : Nat) : (codeDigits places code).length = places := by
  induction places generalizing code with
  | zero => rfl
  | succ places ih => rw [codeDigits, List.length_append, ih, List.length_singleton]

/-- The digit that is written for a value is read as that value. -/
theorem digitValue?_digitChar {n : Nat} (digit : n < 16) :
    digitValue? 16 (Nat.digitChar n) = some n := by
  revert n
  decide

/-- Only hexadecimal digits are written. -/
theorem all_codeDigits (places code : Nat) : (codeDigits places code).all (isDigitIn 16) := by
  induction places generalizing code with
  | zero => rfl
  | succ places ih =>
    have last : isDigitIn 16 (Nat.digitChar (code % 16)) = true := by
      rw [isDigitIn, digitValue?_digitChar (Nat.mod_lt code (by decide)), Option.isSome_some]
    rw [codeDigits, List.all_append, ih, List.all_cons, last]
    rfl

/-- The digits of a code that fits are read as the code. -/
theorem digitsValue_codeDigits {places code : Nat} (fits : code < 16 ^ places) :
    digitsValue 16 (codeDigits places code) = code := by
  induction places generalizing code with
  | zero =>
    have zero : code = 0 := Nat.lt_one_iff.mp fits
    rw [zero]
    rfl
  | succ places ih =>
    rw [codeDigits, digitsValue_concat, digitValue?_digitChar (Nat.mod_lt code (by decide)),
      ih (Nat.div_lt_of_lt_mul (by rwa [Nat.pow_succ'] at fits)), Option.getD_some]
    exact Nat.div_add_mod' code 16

/-! ## Reading basic strings -/

/-- The code of a character is read as that character. -/
theorem scalar?_toNat (c : Char) : scalar? c.toNat = some c := by
  have valid : c.toNat.isValidChar := c.valid
  rw [scalar?, if_pos valid, Char.ofNat_toNat]

/-- Eight digits behind the letter spell the character with this code. -/
theorem escape_code (c : Char) (rest : List Char) :
    escape ('U' :: (codeDigits 8 c.toNat ++ rest)) = some (c, rest) := by
  have fits : c.toNat < 16 ^ 8 := by
    have bound : c.toNat < 2 ^ 32 := c.val.toNat_lt
    omega
  have digits : (codeDigits 8 c.toNat ++ rest).take 8 = codeDigits 8 c.toNat :=
    List.take_left' (length_codeDigits 8 c.toNat)
  have behind : (codeDigits 8 c.toNat ++ rest).drop 8 = rest :=
    List.drop_left' (length_codeDigits 8 c.toNat)
  show codePoint 8 (codeDigits 8 c.toNat ++ rest) = some (c, rest)
  rw [codePoint, digits, behind, if_pos ⟨length_codeDigits 8 c.toNat, all_codeDigits 8 c.toNat⟩,
    digitsValue_codeDigits fits, scalar?_toNat, Option.map_some]

/-- Within a basic string one written character is read as the character. -/
theorem basicBody_escaped (fuel : Nat) (c : Char) (rest : List Char) :
    basicBody (fuel + 1) (escaped c ++ rest) =
      (basicBody fuel rest).map fun (text, rest) => (c :: text, rest) := by
  unfold escaped
  split
  · rename_i plain
    obtain ⟨plain, noQuote, noBackslash⟩ := plain
    rw [List.singleton_append, basicBody.eq_5 _ _ _ noQuote noBackslash, if_pos plain]
  · rw [List.cons_append, List.cons_append, basicBody, escape_code, Option.bind_eq_bind,
      Option.bind_some]
    dsimp only
    cases basicBody fuel rest <;> rfl

/-- A written text is read up to the quote behind it. -/
theorem basicBody_written {fuel : Nat} {cs : List Char} (enough : cs.length < fuel)
    (rest : List Char) :
    basicBody fuel (cs.flatMap escaped ++ '\x22' :: rest) = some (cs, rest) := by
  induction cs generalizing fuel with
  | nil =>
    obtain ⟨fuel, rfl⟩ := Nat.exists_eq_add_one.mpr (Nat.zero_lt_of_lt enough)
    rfl
  | cons c cs ih =>
    obtain ⟨fuel, rfl⟩ := Nat.exists_eq_add_one.mpr (Nat.zero_lt_of_lt enough)
    rw [List.flatMap_cons, List.append_assoc, basicBody_escaped,
      ih (Nat.lt_of_succ_lt_succ enough), Option.map_some]

/-- No written character begins with a quote. -/
theorem escaped_ne_quote (c : Char) : ∃ d ds, escaped c = d :: ds ∧ d ≠ '\x22' := by
  unfold escaped
  split
  · rename_i plain
    exact ⟨c, [], rfl, plain.2.1⟩
  · exact ⟨'\\', _, rfl, by decide⟩

/-- Writing makes no text shorter. -/
theorem length_le_length_escaped (cs : List Char) : cs.length ≤ (cs.flatMap escaped).length := by
  induction cs with
  | nil => exact Nat.zero_le _
  | cons c cs ih =>
    obtain ⟨d, ds, first, -⟩ := escaped_ne_quote c
    rw [List.flatMap_cons, first, List.cons_append, List.length_cons, List.length_cons,
      List.length_append]
    omega

/-- A text is read back from its basic string. -/
theorem quoted_basicString (cs : List Char) : quoted (basicString cs) = some (cs, []) := by
  -- only the empty text starts with two quotes, and its string ends there
  have oneLine : quoted (basicString cs) = quotedLine (basicString cs) := by
    cases cs with
    | nil => rfl
    | cons c cs =>
      obtain ⟨d, ds, first, noQuote⟩ := escaped_ne_quote c
      rw [basicString, List.flatMap_cons, first]
      unfold quoted
      split
      · rename_i same
        simp only [List.cons_append, List.cons.injEq] at same
        exact absurd same.2.1 noQuote
      · rename_i same
        simp at same
      · rfl
  have enough : cs.length < (basicString cs).length := by
    have longer := length_le_length_escaped cs
    rw [basicString, List.length_cons, List.length_append]
    omega
  rw [oneLine]
  exact basicBody_written enough []

/-! ## Documents of one entry -/

/-- A name may stand as a key without quotes. -/
structure IsBare (name : List Char) : Prop where
  nonempty : name ≠ []
  chars : ∀ c ∈ name, isKeyChar c = true

/-- A document with one header, and below it one key with a value. -/
def entryDocument (header name : List Char) (value : List Char) : List Char :=
  '[' :: (header ++ ']' :: '\n' :: (name ++ ' ' :: '=' :: ' ' :: value))

/-- A name is the whole key where no dot follows it. -/
theorem key_bare {name : List Char} (bare : IsBare name) {c d : Char} (rest : List Char)
    {later : List Char} (outside : isKeyChar c = false)
    (behind : dropGap (c :: rest) = d :: later) (noDot : d ≠ '.') :
    key (name ++ c :: rest) = some (([], String.ofList name), d :: later) := by
  have part : keyPart (name ++ c :: rest) = some (String.ofList name, c :: rest) := by
    have stops : ∀ d, (c :: rest).head? = some d → isKeyChar d = false := by
      rintro d first
      rwa [← Option.some.inj first]
    rw [keyPart, Reader.run_append bare.chars stops]
    simp [bare.nonempty]
  have noMore (fuel : Nat) : laterKeyParts (fuel + 1) (c :: rest) = some ([], d :: later) := by
    rw [laterKeyParts, behind]
    split
    · rename_i same
      exact absurd (List.cons.inj same).1 noDot
    · rfl
  simp [key, part, noMore]

/-- A quoted text starts with a quote of one of the two kinds. -/
theorem exists_quote_of_quoted {cs : List Char} {read : List Char × List Char}
    (denotes : quoted cs = some read) : ∃ rest, cs = '\x22' :: rest ∨ cs = '\x27' :: rest := by
  unfold quoted quotedLine at denotes
  split at denotes
  · exact ⟨_, .inl rfl⟩
  · exact ⟨_, .inr rfl⟩
  · split at denotes
    · exact ⟨_, .inl rfl⟩
    · exact ⟨_, .inr rfl⟩
    · cases denotes

/-- A quoted text is a string where a value stands. -/
theorem value_quoted {depth : Nat} {cs text rest : List Char}
    (denotes : quoted cs = some (text, rest)) :
    value (depth + 1) cs = some (.string (String.ofList text), rest) := by
  obtain ⟨later, rfl | rfl⟩ := exists_quote_of_quoted denotes
  · rw [value, denotes, Option.map_some]
  · rw [value, denotes, Option.map_some]

/-- The blank in front of a quoted text is the whole gap. -/
theorem dropGap_quoted {cs : List Char} {read : List Char × List Char}
    (denotes : quoted cs = some read) : dropGap (' ' :: cs) = cs := by
  obtain ⟨later, rfl | rfl⟩ := exists_quote_of_quoted denotes <;> rfl

/-! ### Characters that start a line -/

/-- Neither blank space nor a comment starts with the character. -/
def StartsLine (c : Char) : Prop := isKeyChar c = true ∨ c = '['

/-- The first character of a line differs from every character that is neither part of a key nor a
bracket. -/
theorem StartsLine.ne {c d : Char} (starts : StartsLine c) (noKey : isKeyChar d = false)
    (noBracket : d ≠ '[') : c ≠ d := by
  rintro rfl
  rcases starts with key | bracket
  · rw [noKey] at key
    cases key
  · exact noBracket bracket

/-- No gap is dropped in front of a line that starts. -/
theorem dropGap_cons {c : Char} (starts : StartsLine c) (rest : List Char) :
    dropGap (c :: rest) = c :: rest := by
  have noSpace : c ≠ ' ' := starts.ne (by decide) (by decide)
  have noTab : c ≠ '\t' := starts.ne (by decide) (by decide)
  exact List.dropWhile_cons_of_neg (by simp [isGap, noSpace, noTab])

/-- No blank line or comment is dropped in front of a line that starts. -/
theorem itemGap_cons {c : Char} (starts : StartsLine c) (rest : List Char) :
    itemGap (c :: rest) = some (c :: rest) := by
  have inLine : lineBreak? (c :: rest) = none := by
    unfold lineBreak?
    split
    · rename_i first
      exact absurd (List.cons.inj first).1 (starts.ne (by decide) (by decide))
    · rename_i first
      exact absurd (List.cons.inj first).1 (starts.ne (by decide) (by decide))
    · rfl
  rw [itemGap, dropLines, dropGap_cons starts]
  dsimp only
  rw [inLine]
  dsimp only
  split
  · rename_i first
    exact absurd (List.cons.inj first).1 (starts.ne (by decide) (by decide))
  · rfl

/-- A name without quotes starts with a character of a key. -/
theorem IsBare.exists_cons {name : List Char} (bare : IsBare name) :
    ∃ c cs, name = c :: cs ∧ isKeyChar c = true := by
  obtain ⟨c, cs, rfl⟩ := List.exists_cons_of_ne_nil bare.nonempty
  exact ⟨c, cs, rfl, bare.chars c List.mem_cons_self⟩

/-! ### Statements -/

/-- No character of a key is an opening bracket. -/
theorem isKeyChar_ne_bracket {c : Char} (key : isKeyChar c = true) : c ≠ '[' := by
  rintro rfl
  revert key
  decide

/-- A header in brackets is the statement that opens its table. -/
theorem statement_header {header : List Char} (bare : IsBare header) (rest : List Char) :
    statement ('[' :: (header ++ ']' :: rest)) =
      some (.table [] (String.ofList header), rest) := by
  have read := key_bare bare (c := ']') rest (by decide) rfl (by decide)
  obtain ⟨c, cs, rfl, key⟩ := bare.exists_cons
  have noBracket : c ≠ '[' := isKeyChar_ne_bracket key
  unfold statement
  split
  · rename_i same
    simp only [List.cons_append, List.cons.injEq] at same
    exact absurd same.2.1 noBracket
  · rename_i same
    obtain ⟨-, rfl⟩ := List.cons.inj same
    rw [List.cons_append, dropGap_cons (.inl key), ← List.cons_append, read]
    rfl
  · rename_i noHeader
    exact absurd rfl (noHeader _)

/-- A name with a quoted text behind an equals sign sets the text. -/
theorem statement_quoted {name value text : List Char} (bare : IsBare name)
    (denotes : quoted value = some (text, [])) :
    statement (name ++ ' ' :: '=' :: ' ' :: value) =
      some (.set [] (String.ofList name) (.string (String.ofList text)), []) := by
  have read := key_bare bare (c := ' ') ('=' :: ' ' :: value) (by decide) rfl (by decide)
  have set : keyValue (Toml.value depthLimit) (name ++ ' ' :: '=' :: ' ' :: value) =
      some (([], String.ofList name, .string (String.ofList text)), []) := by
    have equals : Reader.word ['='] (dropGap ('=' :: ' ' :: value)) = some (' ' :: value) := rfl
    have behind : Toml.value depthLimit value = some (.string (String.ofList text), []) :=
      value_quoted denotes
    simp [keyValue, read, equals, dropGap_quoted denotes, behind]
  obtain ⟨c, cs, rfl, key⟩ := bare.exists_cons
  have noBracket : c ≠ '[' := isKeyChar_ne_bracket key
  unfold statement
  split
  · rename_i same
    exact absurd (List.cons.inj same).1 noBracket
  · rename_i same
    exact absurd (List.cons.inj same).1 noBracket
  · rw [set]
    rfl

/-! ### Documents -/

/-- A document of one entry is the statement of its header and the one that sets its key. -/
theorem statements_entryDocument {header name value text : List Char} (headerBare : IsBare header)
    (nameBare : IsBare name) (denotes : quoted value = some (text, [])) (fuel : Nat) :
    statements (fuel + 3) (entryDocument header name value) =
      some [.table [] (String.ofList header),
        .set [] (String.ofList name) (.string (String.ofList text))] := by
  have last : statements (fuel + 1) [] = some [] := rfl
  have entry : statements (fuel + 2) (name ++ ' ' :: '=' :: ' ' :: value) =
      some [.set [] (String.ofList name) (.string (String.ofList text))] := by
    have gap : itemGap (name ++ ' ' :: '=' :: ' ' :: value) =
        some (name ++ ' ' :: '=' :: ' ' :: value) := by
      obtain ⟨c, cs, rfl, key⟩ := nameBare.exists_cons
      exact itemGap_cons (.inl key) _
    have ended : lineEnd [] = some [] := rfl
    rw [statements, gap]
    simp [statement_quoted nameBare denotes, ended, last]
  have ended : lineEnd ('\n' :: (name ++ ' ' :: '=' :: ' ' :: value)) =
      some (name ++ ' ' :: '=' :: ' ' :: value) := rfl
  rw [statements, entryDocument, itemGap_cons (.inr rfl)]
  simp [statement_header headerBare, ended, entry]

/-- A document of one entry is read as a table with this entry. -/
theorem parse?_entryDocument {header name value text : List Char} (headerBare : IsBare header)
    (nameBare : IsBare name) (denotes : quoted value = some (text, [])) :
    parse? (String.ofList (entryDocument header name value)) =
      some [(String.ofList header,
        .table [(String.ofList name, .string (String.ofList text))])] := by
  have opened : parse? (String.ofList (entryDocument header name value)) =
      (statements ((entryDocument header name value).length + 1)
        (entryDocument header name value)).bind fun all =>
          (all.foldlM Draft.apply {}).bind fun draft => some (Entries.toTable draft.entries) := by
    rw [parse?, String.toList_ofList]
    rfl
  obtain ⟨fuel, length⟩ : ∃ fuel, (entryDocument header name value).length + 1 = fuel + 3 :=
    ⟨(header ++ ']' :: (name ++ ' ' :: '=' :: ' ' :: value)).length, by
      simp only [entryDocument, List.length_cons, List.length_append]
      omega⟩
  rw [opened, length, statements_entryDocument headerBare nameBare denotes, Option.bind_some]
  simp [Draft.apply, Entries.openTable, Entries.set, Entries.changeAt, Entries.put,
    Entries.toTable, Node.toValue]

end Picklist.Toml
