import Picklist.Json.Read
import Picklist.Json.Write

/-!
# Reading what was written

A value of texts, truth values and the null value, in arrays and objects to any depth, is read back
from its text as it was, whether it was written without blank space or over several lines. Both ways
of writing differ only in the blank space between the parts, so the proof is given once, for any
blank space.
-/

set_option autoImplicit false

namespace Picklist.Json

/-! ## Strings -/

/-- Whether a piece of a string stands for a character; control characters are given by codes. -/
def Piece.Spells (c : Char) : Piece → Prop
  | .char d => d = c
  | .code n => n = c.toNat ∧ n < 0x20

/-- A hexadecimal digit has the value that it was written for. -/
theorem hexValue?_hexDigit : ∀ n < 16, hexValue? (hexDigit n) = some n := by decide

/-- A letter behind a backslash is read as the character that it stands for. -/
theorem pieces_escape {c d : Char} (stands : escaped? c = some d) (rest : List Char) :
    pieces ('\\' :: c :: rest) =
      (pieces rest).map fun (later, rest) => (.char d :: later, rest) := by
  have other : c ≠ 'u' := by
    rintro rfl
    cases stands
  rw [pieces.eq_def]
  split
  case h_5 noEscape same =>
    obtain ⟨rfl, rfl⟩ := List.cons.inj same
    exact absurd rfl (noEscape c rest rfl)
  all_goals cases read : pieces rest <;> simp_all

/-- A code in four digits is read as this code. -/
theorem pieces_code {a b c d : Char} {n : Nat} (code : code? a b c d = some n)
    (rest : List Char) :
    pieces ('\\' :: 'u' :: a :: b :: c :: d :: rest) =
      (pieces rest).map fun (later, rest) => (.code n :: later, rest) := by
  cases read : pieces rest <;> simp [pieces, code, read]

/-- Other characters are read as they are. -/
theorem pieces_plain {c : Char} (noQuote : c ≠ '\x22') (noBackslash : c ≠ '\\')
    (printable : 0x20 ≤ c.toNat) (rest : List Char) :
    pieces (c :: rest) = (pieces rest).map fun (later, rest) => (.char c :: later, rest) := by
  rw [pieces.eq_def]
  split
  case h_5 same =>
    obtain ⟨rfl, rfl⟩ := List.cons.inj same
    rw [if_neg (Nat.not_lt_of_le printable)]
    cases pieces rest <;> rfl
  all_goals simp_all

/-- A control character is read from its code. -/
theorem code?_control {n : Nat} (control : n < 0x20) :
    code? '0' '0' (hexDigit (n / 16)) (hexDigit (n % 16)) = some n := by
  have zero : hexValue? '0' = some 0 := rfl
  have high := hexValue?_hexDigit (n / 16) (by omega)
  have low := hexValue?_hexDigit (n % 16) (by omega)
  unfold code?
  rw [zero, high, low]
  simp only [Option.bind_eq_bind, Option.bind_some, Option.some.injEq]
  omega

/-- The text of a character is read as one piece, which stands for the character. -/
theorem pieces_escapeChar (c : Char) (rest : List Char) :
    ∃ piece : Piece, piece.Spells c ∧ pieces (escapeChar c ++ rest) =
      (pieces rest).map fun (later, rest) => (piece :: later, rest) := by
  unfold escapeChar
  split
  case h_8 noQuote noBackslash _ _ _ _ _ =>
    split
    case isTrue control =>
      exact ⟨.code c.toNat, ⟨rfl, control⟩, pieces_code (code?_control control) rest⟩
    case isFalse printable =>
      exact ⟨.char c, rfl, pieces_plain noQuote noBackslash (Nat.le_of_not_lt printable) rest⟩
  all_goals exact ⟨.char _, rfl, pieces_escape rfl rest⟩

/-- A piece that stands for a character joins what the other pieces spell. -/
theorem joinPieces_cons {c : Char} {piece : Piece} (spells : piece.Spells c) (rest : List Piece) :
    joinPieces (piece :: rest) = (joinPieces rest).map (c :: ·) := by
  cases piece with
  | char d =>
    obtain rfl : d = c := spells
    rfl
  | code n =>
    obtain ⟨rfl, control⟩ : n = c.toNat ∧ n < 0x20 := spells
    have high : isHighHalf c.toNat = false := by
      simp [isHighHalf]
      omega
    have low : isLowHalf c.toNat = false := by
      simp [isLowHalf]
      omega
    match rest with
    | [] => simp [joinPieces, high, low]
    | .char d :: rest => simp [joinPieces, high, low]
    | .code m :: rest => simp [joinPieces, high, low]

/-- The pieces of a written text spell the text. -/
theorem pieces_escaped (text rest : List Char) :
    ∃ ps : List Piece, joinPieces ps = some text ∧
      pieces (text.flatMap escapeChar ++ '\x22' :: rest) = some (ps, rest) := by
  induction text with
  | nil => exact ⟨[], rfl, by simp [pieces]⟩
  | cons c text ih =>
    obtain ⟨ps, spelled, read⟩ := ih
    obtain ⟨piece, spells, first⟩ :=
      pieces_escapeChar c (text.flatMap escapeChar ++ '\x22' :: rest)
    refine ⟨piece :: ps, ?_, ?_⟩
    · rw [joinPieces_cons spells, spelled, Option.map_some]
    · rw [List.flatMap_cons, List.append_assoc, first, read, Option.map_some]

/-- A quoted text is read as it was, whatever follows. -/
theorem string_quote (text : String) (rest : List Char) :
    string (quote text.toList ++ rest) = some (some text, rest) := by
  obtain ⟨ps, spelled, read⟩ := pieces_escaped text.toList rest
  unfold quote string
  rw [List.cons_append, List.append_assoc, List.singleton_append]
  show (pieces (text.toList.flatMap escapeChar ++ '\x22' :: rest)).map
    (fun (ps, rest) => ((joinPieces ps).map String.ofList, rest)) = _
  rw [read, Option.map_some]
  dsimp only
  rw [spelled, Option.map_some, String.ofList_toList]

/-! ## Blank space between the parts -/

/-- Whether a text is blank. -/
def IsBlank (cs : List Char) : Prop := ∀ c ∈ cs, isSpace c = true

/-- The blank space that is written between the parts of a value. -/
structure Layout where
  /-- What stands before every item or member of a level, and before the end of a list of them. -/
  gap : Nat → List Char
  /-- What stands behind the colon of a member. -/
  afterColon : List Char
  gap_blank : ∀ level, IsBlank (gap level)
  afterColon_blank : IsBlank afterColon

/-- No blank space at all. -/
def Layout.compact : Layout where
  gap _ := []
  afterColon := []
  gap_blank _ := List.forall_mem_nil _
  afterColon_blank := List.forall_mem_nil _

/-- Every item and member on a line of its own. -/
def Layout.pretty : Layout where
  gap := newLine
  afterColon := [' ']
  gap_blank level := by
    intro c inside
    rcases List.mem_cons.mp inside with rfl | space
    · rfl
    · rw [List.eq_of_mem_replicate space]
      rfl
  afterColon_blank := by
    intro c inside
    rw [List.mem_singleton.mp inside]
    rfl

mutual

/-- A value with the given blank space, at the given level. -/
def Value.write (l : Layout) (level : Nat) : Value → List Char
  | .array (first :: rest) =>
    '[' :: (l.gap (level + 1) ++ first.write l (level + 1) ++ writeItems l level rest)
  | .object ((key, v) :: rest) =>
    '\x7b' :: (l.gap (level + 1) ++ (quote key.toList ++ ':' :: (l.afterColon ++
      v.write l (level + 1))) ++ writeMembers l level rest)
  | v => v.compact

/-- The items behind the first one, and the end of the array. -/
def writeItems (l : Layout) (level : Nat) : List Value → List Char
  | [] => l.gap level ++ [']']
  | v :: rest => ',' :: (l.gap (level + 1) ++ v.write l (level + 1) ++ writeItems l level rest)

/-- The members behind the first one, and the end of the object. -/
def writeMembers (l : Layout) (level : Nat) : Members → List Char
  | [] => l.gap level ++ ['\x7d']
  | (key, v) :: rest =>
    ',' :: (l.gap (level + 1) ++ (quote key.toList ++ ':' :: (l.afterColon ++
      v.write l (level + 1))) ++ writeMembers l level rest)

end

mutual

/-- The compact form is the general one without blank space. -/
theorem write_compact (level : Nat) : ∀ v : Value, v.write .compact level = v.compact
  | .array (first :: rest) => by
    rw [Value.write, Value.compact, write_compact (level + 1) first, writeItems_compact level rest]
    rfl
  | .object ((key, v) :: rest) => by
    rw [Value.write, Value.compact, write_compact (level + 1) v, writeMembers_compact level rest]
    simp [Layout.compact]
  | .array [] | .object [] | .null | .boolean _ | .number _ | .string _ | .unpaired => by
    simp [Value.write]

/-- The compact items are the general ones without blank space. -/
theorem writeItems_compact (level : Nat) : ∀ vs, writeItems .compact level vs = compactItems vs
  | [] => rfl
  | v :: rest => by
    rw [writeItems, compactItems, write_compact (level + 1) v, writeItems_compact level rest]
    rfl

/-- The compact members are the general ones without blank space. -/
theorem writeMembers_compact (level : Nat) :
    ∀ ms, writeMembers .compact level ms = compactMembers ms
  | [] => rfl
  | (key, v) :: rest => by
    rw [writeMembers, compactMembers, write_compact (level + 1) v, writeMembers_compact level rest]
    simp [Layout.compact]

end

mutual

/-- The indented form is the general one with line breaks. -/
theorem write_pretty (level : Nat) : ∀ v : Value, v.write .pretty level = v.pretty level
  | .array (first :: rest) => by
    rw [Value.write, Value.pretty, write_pretty (level + 1) first, writeItems_pretty level rest]
    rfl
  | .object ((key, v) :: rest) => by
    rw [Value.write, Value.pretty, write_pretty (level + 1) v, writeMembers_pretty level rest]
    simp [Layout.pretty]
  | .array [] | .object [] | .null | .boolean _ | .number _ | .string _ | .unpaired => by
    simp [Value.write, Value.pretty]

/-- The indented items are the general ones with line breaks. -/
theorem writeItems_pretty (level : Nat) : ∀ vs, writeItems .pretty level vs = prettyItems level vs
  | [] => rfl
  | v :: rest => by
    rw [writeItems, prettyItems, write_pretty (level + 1) v, writeItems_pretty level rest]
    rfl

/-- The indented members are the general ones with line breaks. -/
theorem writeMembers_pretty (level : Nat) :
    ∀ ms, writeMembers .pretty level ms = prettyMembers level ms
  | [] => rfl
  | (key, v) :: rest => by
    rw [writeMembers, prettyMembers, write_pretty (level + 1) v, writeMembers_pretty level rest]
    simp [Layout.pretty]

end

/-! ## Reading lists of parts -/

/-- Blank space in front is dropped as a whole. -/
theorem dropSpace_append {gap : List Char} (blank : IsBlank gap) (rest : List Char) :
    dropSpace (gap ++ rest) = dropSpace rest :=
  List.dropWhile_append_of_pos blank

/-- What is visible is not dropped. -/
theorem dropSpace_cons {c : Char} (visible : isSpace c = false) (rest : List Char) :
    dropSpace (c :: rest) = c :: rest :=
  List.dropWhile_cons_of_neg (by rw [visible]; exact Bool.false_ne_true)

/-- A text that is not blank at its start. -/
def Starts (closing : Char) (cs : List Char) : Prop :=
  ∃ c rest, cs = c :: rest ∧ isSpace c = false ∧ c ≠ closing

/-- What starts a value is not dropped. -/
theorem dropSpace_of_starts {closing : Char} {cs : List Char} (starts : Starts closing cs)
    (rest : List Char) : dropSpace (cs ++ rest) = cs ++ rest := by
  obtain ⟨c, more, rfl, visible, -⟩ := starts
  exact dropSpace_cons visible (more ++ rest)

/-- What starts a value does so whatever follows. -/
theorem Starts.append {closing : Char} {cs : List Char} (starts : Starts closing cs)
    (more : List Char) : Starts closing (cs ++ more) := by
  obtain ⟨c, rest, rfl, visible, other⟩ := starts
  exact ⟨c, rest ++ more, rfl, visible, other⟩

/-- A quoted text starts a value. -/
theorem string_starts {closing : Char} (other : '\x22' ≠ closing) (text : List Char) :
    Starts closing (quote text) :=
  ⟨'\x22', _, rfl, rfl, other⟩

section Lists

variable {α : Type} {item : Reader α} {closing : Char} {gap text more rest : List Char} {a : α}
  {others : List α}

/-- The end of a list. -/
theorem laterItems_end (visible : isSpace closing = false) (blank : IsBlank gap) (fuel : Nat) :
    Reader.laterItems item (fun cs => some (dropSpace cs)) closing false (fuel + 1)
      (gap ++ closing :: rest) = some ([], rest) := by
  unfold Reader.laterItems
  rw [dropSpace_append blank, dropSpace_cons visible]
  simp

/-- One more part of a list. -/
theorem laterItems_cons (comma : closing ≠ ',') (blank : IsBlank gap)
    (starts : Starts closing text) (read : item (text ++ more) = some (a, more)) {fuel : Nat}
    (later : Reader.laterItems item (fun cs => some (dropSpace cs)) closing false fuel more =
      some (others, rest)) :
    Reader.laterItems item (fun cs => some (dropSpace cs)) closing false (fuel + 1)
      (',' :: (gap ++ text ++ more)) = some (a :: others, rest) := by
  have first : dropSpace (',' :: (gap ++ text ++ more)) = ',' :: (gap ++ text ++ more) := rfl
  have second : dropSpace (gap ++ (text ++ more)) = text ++ more := by
    rw [dropSpace_append blank, dropSpace_of_starts starts]
  unfold Reader.laterItems
  rw [first]
  simp [comma.symm, second, read, later]

/-- The first part of a list. -/
theorem items_cons (blank : IsBlank gap) (starts : Starts closing text)
    (read : item (text ++ more) = some (a, more))
    (later : Reader.laterItems item (fun cs => some (dropSpace cs)) closing false
      (text ++ more).length more = some (others, rest)) :
    Reader.items item (fun cs => some (dropSpace cs)) closing false (gap ++ text ++ more) =
      some (a :: others, rest) := by
  have first : dropSpace (gap ++ text ++ more) = text ++ more := by
    rw [List.append_assoc, dropSpace_append blank, dropSpace_of_starts starts]
  obtain ⟨c, following, rfl, -, other⟩ := starts
  have head : ((c :: following ++ more).head? == some closing) = false := by simp [other]
  unfold Reader.items
  simp only [first, head, read, later, Option.bind_eq_bind, Option.bind_some, Bool.false_eq_true,
    if_false]

/-- A closing bracket right behind the opening one ends an array or object without parts. -/
theorem items_nil (closing : Char) (visible : isSpace closing = false) :
    Reader.items item (fun cs => some (dropSpace cs)) closing false (closing :: rest) =
      some ([], rest) := by
  unfold Reader.items
  simp [dropSpace_cons visible]

end Lists

/-! ## Reading values -/

mutual

/-- Whether a value is made of texts, truth values and the null value. -/
def Value.isTextual : Value → Bool
  | .number _ => false
  | .unpaired => false
  | .array items => itemsTextual items
  | .object members => membersTextual members
  | _ => true

/-- Whether the items of an array are made of texts, truth values and the null value. -/
def itemsTextual : List Value → Bool
  | [] => true
  | v :: rest => v.isTextual && itemsTextual rest

/-- Whether the members of an object are made of texts, truth values and the null value. -/
def membersTextual : Members → Bool
  | [] => true
  | (_, v) :: rest => v.isTextual && membersTextual rest

end

variable (l : Layout)

/-- A written value starts with a visible character that closes nothing. -/
theorem write_starts {v : Value} (textual : v.isTextual = true) (level : Nat) :
    Starts ']' (v.write l level) := by
  cases v with
  | null => exact ⟨'n', ['u', 'l', 'l'], by simp [Value.write, Value.compact], rfl, by decide⟩
  | boolean b =>
    cases b with
    | true => exact ⟨'t', ['r', 'u', 'e'], by simp [Value.write, Value.compact], rfl, by decide⟩
    | false =>
      exact ⟨'f', ['a', 'l', 's', 'e'], by simp [Value.write, Value.compact], rfl, by decide⟩
  | number n => cases textual
  | string text =>
    rw [Value.write, Value.compact]
    exact string_starts (by decide) text.toList
    all_goals simp
  | unpaired => cases textual
  | array items =>
    cases items with
    | nil => exact ⟨'[', [']'], by simp [Value.write, Value.compact], rfl, by decide⟩
    | cons first rest => exact ⟨'[', _, by rw [Value.write], rfl, by decide⟩
  | object members =>
    cases members with
    | nil => exact ⟨'\x7b', ['\x7d'], by simp [Value.write, Value.compact], rfl, by decide⟩
    | cons first rest => exact ⟨'\x7b', _, by rw [Value.write], rfl, by decide⟩

/-- A written array is longer than the number of its items. -/
theorem itemsLength_lt (level : Nat) (vs : List Value) :
    vs.length < (writeItems l level vs).length := by
  induction vs with
  | nil => simp [writeItems]
  | cons v rest ih =>
    rw [writeItems, List.length_cons, List.length_cons, List.length_append]
    omega

/-- A written object is longer than the number of its members. -/
theorem membersLength_lt (level : Nat) (ms : Members) :
    ms.length < (writeMembers l level ms).length := by
  induction ms with
  | nil => simp [writeMembers]
  | cons member rest ih =>
    rw [writeMembers, List.length_cons, List.length_cons, List.length_append]
    omega

/-- Members whose keys are texts make up an object. -/
theorem objectOf_texts (ms : Members) :
    objectOf (ms.map fun m => (some m.1, m.2)) = .object ms := by
  have keys {f : Option String × Value → Option (String × Value)}
      (kept : ∀ key v, f (some key, v) = some (key, v)) :
      (ms.map fun m => (some m.1, m.2)).mapM f = some ms := by
    induction ms with
    | nil => rfl
    | cons member rest ih => simp [kept, ih]
  unfold objectOf
  rw [keys fun _ _ => rfl]

/-- A member is read if its value is. -/
theorem member_write {readValue : Reader Value} {v : Value} {text rest : List Char} (key : String)
    (starts : Starts ']' text) (read : readValue (text ++ rest) = some (v, rest)) :
    member readValue ((quote key.toList ++ ':' :: (l.afterColon ++ text)) ++ rest) =
      some ((some key, v), rest) := by
  have colon : dropSpace (':' :: (l.afterColon ++ text ++ rest)) =
      ':' :: (l.afterColon ++ text ++ rest) := rfl
  have behind : dropSpace (l.afterColon ++ text ++ rest) = text ++ rest := by
    rw [List.append_assoc, dropSpace_append l.afterColon_blank, dropSpace_of_starts starts]
  unfold member
  rw [List.append_assoc, string_quote, List.cons_append]
  simp only [Option.bind_eq_bind, Option.bind_some, colon, Reader.word, if_true, behind, read]

mutual

/-- A written value is read back. -/
theorem value_write : ∀ (v : Value), v.isTextual = true → ∀ level depth, v.depth < depth →
    ∀ rest, value depth (v.write l level ++ rest) = some (v, rest)
  | .null, _, level, depth + 1, _, rest => by
    simp [Value.write, Value.compact, value, Reader.word]
  | .boolean true, _, level, depth + 1, _, rest => by
    simp [Value.write, Value.compact, value, Reader.word]
  | .boolean false, _, level, depth + 1, _, rest => by
    simp [Value.write, Value.compact, value, Reader.word]
  | .string text, _, level, depth + 1, _, rest => by
    have read := string_quote text rest
    simp only [Value.write, Value.compact]
    show (string (quote text.toList ++ rest)).map
      (fun (text, rest) => (text.elim Value.unpaired Value.string, rest)) = _
    rw [read]
    rfl
  | .array [], _, level, depth + 1, _, rest => by
    simp [Value.write, Value.compact, value, items_nil ']' rfl]
  | .array (first :: others), textual, level, depth + 1, deep, rest => by
    rw [Value.isTextual, itemsTextual, Bool.and_eq_true] at textual
    rw [Value.depth, itemsDepth] at deep
    have read := value_write first textual.1 (level + 1) depth (by omega)
    have later := laterItems_write others textual.2 level depth
    have length := itemsLength_lt l level others
    rw [Value.write, List.cons_append, List.append_assoc, value]
    rw [items_cons (l.gap_blank _) (write_starts l textual.1 _) (read _)
      (later _ (by omega) (by simp; omega) rest)]
    rfl
  | .object [], _, level, depth + 1, _, rest => by
    simp [Value.write, Value.compact, value, items_nil '\x7d' rfl, objectOf]
  | .object ((key, first) :: others), textual, level, depth + 1, deep, rest => by
    rw [Value.isTextual, membersTextual, Bool.and_eq_true] at textual
    rw [Value.depth, membersDepth] at deep
    have read := value_write first textual.1 (level + 1) depth (by omega)
    have later := laterMembers_write others textual.2 level depth
    have length := membersLength_lt l level others
    rw [Value.write, List.cons_append, List.append_assoc, value]
    rw [items_cons (l.gap_blank _) ((string_starts (by decide) key.toList).append _)
      (member_write l key (write_starts l textual.1 _) (read _))
      (later _ (by omega) (by simp; omega) rest)]
    exact congrArg (fun object => some (object, rest)) (objectOf_texts ((key, first) :: others))

/-- The items behind the first one are read back. -/
theorem laterItems_write : ∀ (vs : List Value), itemsTextual vs = true → ∀ level depth fuel,
    itemsDepth vs < depth → vs.length < fuel → ∀ rest,
    Reader.laterItems (value depth) (fun cs => some (dropSpace cs)) ']' false fuel
      (writeItems l level vs ++ rest) = some (vs, rest)
  | [], _, level, depth, fuel + 1, _, _, rest => by
    rw [writeItems, List.append_assoc]
    exact laterItems_end rfl (l.gap_blank level) fuel
  | v :: others, textual, level, depth, fuel + 1, deep, enough, rest => by
    rw [itemsTextual, Bool.and_eq_true] at textual
    rw [itemsDepth] at deep
    have read := value_write v textual.1 (level + 1) depth (by omega)
    have later := laterItems_write others textual.2 level depth fuel (by omega)
      (Nat.lt_of_succ_lt_succ enough) rest
    rw [writeItems, List.cons_append, List.append_assoc]
    exact laterItems_cons (by decide) (l.gap_blank _) (write_starts l textual.1 _) (read _) later

/-- The members behind the first one are read back. -/
theorem laterMembers_write : ∀ (ms : Members), membersTextual ms = true → ∀ level depth fuel,
    membersDepth ms < depth → ms.length < fuel → ∀ rest,
    Reader.laterItems (member (value depth)) (fun cs => some (dropSpace cs)) '\x7d' false fuel
      (writeMembers l level ms ++ rest) = some (ms.map fun m => (some m.1, m.2), rest)
  | [], _, level, depth, fuel + 1, _, _, rest => by
    rw [writeMembers, List.append_assoc]
    exact laterItems_end rfl (l.gap_blank level) fuel
  | (key, v) :: others, textual, level, depth, fuel + 1, deep, enough, rest => by
    rw [membersTextual, Bool.and_eq_true] at textual
    rw [membersDepth] at deep
    have read := value_write v textual.1 (level + 1) depth (by omega)
    have later := laterMembers_write others textual.2 level depth fuel (by omega)
      (Nat.lt_of_succ_lt_succ enough) rest
    rw [writeMembers, List.cons_append, List.append_assoc]
    exact laterItems_cons (by decide) (l.gap_blank _)
      ((string_starts (by decide) key.toList).append _)
      (member_write l key (write_starts l textual.1 _) (read _)) later

end

mutual

/-- A text is at least as long as its value is deep. -/
theorem depth_le_length (level : Nat) :
    ∀ v : Value, v.depth ≤ (v.write l level).length
  | .array (first :: rest) => by
    have head := depth_le_length (level + 1) first
    have tail := itemsDepth_le_length level rest
    rw [Value.depth, itemsDepth, Value.write]
    simp only [List.length_cons, List.length_append]
    omega
  | .object ((_, v) :: rest) => by
    have head := depth_le_length (level + 1) v
    have tail := membersDepth_le_length level rest
    rw [Value.depth, membersDepth, Value.write]
    simp only [List.length_cons, List.length_append]
    omega
  | .array [] | .object [] => by simp [Value.depth, itemsDepth, membersDepth, Value.write,
      Value.compact]
  | .null | .boolean _ | .number _ | .string _ | .unpaired => by simp [Value.depth]

/-- Items are nested no deeper than their text is long. -/
theorem itemsDepth_le_length (level : Nat) :
    ∀ vs : List Value, itemsDepth vs ≤ (writeItems l level vs).length
  | [] => Nat.zero_le _
  | v :: rest => by
    have head := depth_le_length (level + 1) v
    have tail := itemsDepth_le_length level rest
    rw [itemsDepth, writeItems]
    simp only [List.length_cons, List.length_append]
    omega

/-- Members are nested no deeper than their text is long. -/
theorem membersDepth_le_length (level : Nat) :
    ∀ ms : Members, membersDepth ms ≤ (writeMembers l level ms).length
  | [] => Nat.zero_le _
  | (_, v) :: rest => by
    have head := depth_le_length (level + 1) v
    have tail := membersDepth_le_length level rest
    rw [membersDepth, writeMembers]
    simp only [List.length_cons, List.length_append]
    omega

end

/-- **Reading inverts writing**, whatever blank space is written between the parts and behind the
value. -/
theorem parse?_write {v : Value} (textual : v.isTextual = true) (level : Nat) {tail : List Char}
    (blank : IsBlank tail) : parse? (v.write l level ++ tail) = some v := by
  have deep := depth_le_length l level v
  have read := value_write l v textual level ((v.write l level ++ tail).length + 1)
    (by rw [List.length_append]; omega) tail
  have first := dropSpace_of_starts (write_starts l textual level) tail
  have last : dropSpace tail = [] := by
    have all := dropSpace_append blank []
    rwa [List.append_nil] at all
  unfold parse?
  rw [first, read]
  simp [last]

end Picklist.Json
