import Picklist.Pattern.OfText
import Picklist.Proofs.Pattern.Spans

/-!
# Escaped text matches itself

An escaped text is read as one token for each of its characters, and put together as the pattern of
the text. At a place this pattern matches if the text stands there up to case, and in one way only.
So it matches a text that contains it, and its matches are the occurrences that a search from left
to right finds when it goes on behind each of them.
-/

set_option autoImplicit false

namespace Picklist.Pattern

open Unicode

/-! ## Reading an escaped text -/

/-- A character without a meaning of its own stands for itself. -/
theorem readToken_of_plain {c : Char} (plain : isMeta c = false) (cs : List Char) :
    readToken c cs = some (.literal c, cs) := by
  unfold readToken
  split
  case h_13 => rfl
  all_goals exact absurd plain (by decide)

/-- Behind a backslash a character with a meaning of its own stands for itself. -/
theorem readToken_backslash {c : Char} (hasMeaning : isMeta c = true) (cs : List Char) :
    readToken '\\' (c :: cs) = some (.literal c, cs) := by
  rw [readToken, readEscape, if_pos hasMeaning]
  rfl

/-- A token that is read leaves the tokens of what is behind it. -/
theorem tokens?_of_readToken {c : Char} {cs rest : List Char} {token : Token}
    (read : readToken c cs = some (token, rest)) (shorter : rest.length ≤ cs.length) :
    tokens? (c :: cs) = (tokens? rest).map (token :: ·) := by
  rw [tokens?, read]
  exact dif_pos shorter

/-- The tokens of an escaped text are its characters. -/
theorem tokens?_escape (cs : List Char) : tokens? (escape cs) = some (cs.map .literal) := by
  induction cs with
  | nil => rw [escape, List.flatMap_nil, tokens?, List.map_nil]
  | cons c cs ih =>
    have split : escape (c :: cs) = escapeChar c ++ escape cs := List.flatMap_cons
    have read : tokens? (escape (c :: cs)) = (tokens? (escape cs)).map (.literal c :: ·) := by
      rw [split, escapeChar]
      cases special : isMeta c with
      | true => exact tokens?_of_readToken (readToken_backslash special _) (Nat.le_succ _)
      | false => exact tokens?_of_readToken (readToken_of_plain special _) (Nat.le_refl _)
    rw [read, ih, Option.map_some, List.map_cons]

/-- Single characters join the branch one after the other. -/
theorem foldlM_step_literals (cs : List Char) (items : List Item) :
    (cs.map Token.literal).foldlM Assembly.step { current := { items } } =
      some { current := { items :=
        (cs.map fun c => Item.pattern (one (.literal c true))).reverse ++ items } } := by
  induction cs generalizing items with
  | nil => rfl
  | cons c cs ih =>
    rw [List.map_cons, List.map_cons, List.reverse_cons, List.append_assoc, List.singleton_append]
    exact ih (.pattern (one (.literal c true)) :: items)

/-- Reading an escaped text gives the pattern of the text. -/
theorem ofText?_escape (cs : List Char) : ofText? (escape cs) = some (ofLiteral cs) := by
  rw [ofText?, tokens?_escape]
  show (cs.map Token.literal).foldlM Assembly.step {} >>= Assembly.finish? = _
  have branch : (cs.map fun c => Item.pattern (one (.literal c true))).filterMap Item.pattern? =
      cs.map fun c => one (.literal c true) := by
    rw [List.filterMap_map]
    exact congrFun List.filterMap_eq_map cs
  rw [foldlM_step_literals]
  simp [Assembly.finish?, Draft.finish, Draft.branch, branch, choice, ofLiteral]

/-! ## Matches at a place -/

/-- The text starts with the query, character by character up to case. -/
def StartsWith (query text : List Char) : Prop :=
  query.map foldCase <+: text.map foldCase

/-- A text starts with a query, up to case, if its first character and the rest do. -/
theorem startsWith_cons {c d : Char} {query text : List Char} :
    StartsWith (c :: query) (d :: text) ↔ foldCase c = foldCase d ∧ StartsWith query text :=
  List.cons_prefix_cons

/-- A text starts with a query, up to case, if it has a part in front that folds to the same. -/
theorem startsWith_iff {query text : List Char} :
    StartsWith query text ↔
      ∃ found after, text = found ++ after ∧ found.map foldCase = query.map foldCase := by
  constructor
  · rintro ⟨after, split⟩
    obtain ⟨found, after, rfl, same, -⟩ := List.map_eq_append_iff.mp split.symm
    exact ⟨found, after, rfl, same⟩
  · rintro ⟨found, after, rfl, same⟩
    exact ⟨after.map foldCase, by rw [← same, List.map_append]⟩

/-- The pattern of a query tests the first character and goes on with the others. -/
theorem reach_ofLiteral_cons (c : Char) (query : List Char) (places : List Cursor) :
    (ofLiteral (c :: query)).reach places =
      (ofLiteral query).reach
        (places.filterMap (·.advance? (CharTest.literal c true).accepts)) := by
  cases query <;> rfl

/-- From no place the pattern of a query leads nowhere. -/
theorem reach_ofLiteral_nil (query : List Char) : (ofLiteral query).reach [] = [] := by
  induction query with
  | nil => rfl
  | cons c query ih => rw [reach_ofLiteral_cons, List.filterMap_nil, ih]

section Place

variable {query rest : List Char} {index : Nat} {before : Option Char} {c d : Char}

/-- A character that equals the first one up to case is read. -/
theorem ends_ofLiteral_of_same (same : foldCase c = foldCase d) :
    (ofLiteral (c :: query)).ends ⟨index, before, d :: rest⟩ =
      (ofLiteral query).ends ⟨index + 1, some d, rest⟩ := by
  rw [ends, reach_ofLiteral_cons, ends]
  simp [Cursor.advance?, CharTest.accepts, same]

/-- At a character that differs from the first one the pattern of a query has no match. -/
theorem ends_ofLiteral_of_ne (differs : foldCase c ≠ foldCase d) :
    (ofLiteral (c :: query)).ends ⟨index, before, d :: rest⟩ = [] := by
  rw [ends, reach_ofLiteral_cons]
  simp [Cursor.advance?, CharTest.accepts, differs, reach_ofLiteral_nil]

/-- At the end of a text the pattern of a query has no match. -/
theorem ends_ofLiteral_at_end : (ofLiteral (c :: query)).ends ⟨index, before, []⟩ = [] := by
  rw [ends, reach_ofLiteral_cons]
  exact reach_ofLiteral_nil query

/-- A text that starts with the query is matched up to the query's end, and in no other way. -/
theorem ends_of_startsWith (starts : StartsWith query rest) :
    ∃ q : Cursor, (ofLiteral query).ends ⟨index, before, rest⟩ = [q] ∧
      q.index = index + query.length := by
  induction query generalizing index before rest with
  | nil => exact ⟨_, rfl, rfl⟩
  | cons c query ih =>
    cases rest with
    | nil => cases List.prefix_nil.mp starts
    | cons d rest =>
      obtain ⟨same, starts⟩ := startsWith_cons.mp starts
      obtain ⟨q, reached, behind⟩ := ih starts
      refine ⟨q, (ends_ofLiteral_of_same same).trans reached, ?_⟩
      rw [behind, List.length_cons]
      omega

/-- A text that does not start with the query is not matched. -/
theorem ends_of_not_startsWith (differs : ¬ StartsWith query rest) :
    (ofLiteral query).ends ⟨index, before, rest⟩ = [] := by
  induction query generalizing index before rest with
  | nil => exact absurd List.nil_prefix differs
  | cons c query ih =>
    cases rest with
    | nil => exact ends_ofLiteral_at_end
    | cons d rest =>
      by_cases same : foldCase c = foldCase d
      · rw [ends_ofLiteral_of_same same]
        exact ih fun starts => differs (startsWith_cons.mpr ⟨same, starts⟩)
      · exact ends_ofLiteral_of_ne same

end Place

section Cursor

variable {query : List Char} {p q : Cursor}

/-- The pattern of a query has a match just where the text starts with the query. -/
theorem ends_ofLiteral_ne_nil_iff : (ofLiteral query).ends p ≠ [] ↔ StartsWith query p.rest := by
  obtain ⟨index, before, rest⟩ := p
  constructor
  · intro found
    by_cases starts : StartsWith query rest
    · exact starts
    · exact absurd (ends_of_not_startsWith starts) found
  · intro starts
    obtain ⟨q, reached, -⟩ := ends_of_startsWith starts
    rw [reached]
    exact List.cons_ne_nil q []

/-- A match is an occurrence, and as long as the query. -/
theorem startsWith_of_ends (first : ((ofLiteral query).ends p).head? = some q) :
    StartsWith query p.rest ∧ q.index = p.index + query.length := by
  obtain ⟨index, before, rest⟩ := p
  have found : (ofLiteral query).ends ⟨index, before, rest⟩ ≠ [] :=
    List.ne_nil_of_mem (List.mem_of_head? first)
  have starts : StartsWith query rest := ends_ofLiteral_ne_nil_iff.mp found
  obtain ⟨q', reached, behind⟩ := ends_of_startsWith starts
  rw [reached, List.head?_cons, Option.some.injEq] at first
  exact ⟨starts, first ▸ behind⟩

end Cursor

/-- The pattern of a text matches where some part equals the text up to case. -/
theorem matchesIn_ofLiteral_iff (query cs : List Char) :
    (ofLiteral query).matchesIn cs = true ↔
      ∃ before found after, cs = before ++ found ++ after ∧
        found.map foldCase = query.map foldCase := by
  rw [matchesIn_iff]
  constructor
  · rintro ⟨p, place, matched⟩
    obtain ⟨found, after, split, same⟩ := startsWith_iff.mp (ends_ofLiteral_ne_nil_iff.mp matched)
    refine ⟨cs.take p.index, found, after, ?_, same⟩
    rw [List.append_assoc, ← split, place.rest, List.take_append_drop]
  · rintro ⟨before, found, after, rfl, same⟩
    refine ⟨⟨before.length, before.getLast?, found ++ after⟩, ⟨?_, ?_, ?_⟩, ?_⟩
    · simp only [List.length_append]
      omega
    · rw [List.append_assoc, List.take_left]
    · rw [List.append_assoc, List.drop_left]
    · exact ends_ofLiteral_ne_nil_iff.mpr (startsWith_iff.mpr ⟨found, after, rfl, same⟩)

/-! ## Matches from left to right -/

/-- The occurrences of the query that are found from a position on by taking the first one and going
on behind it. -/
inductive Greedy (query cs : List Char) : Nat → List Text.Span → Prop where
  | finished {start : Nat} (none : ∀ index, start ≤ index → ¬ StartsWith query (cs.drop index)) :
    Greedy query cs start []
  | found {start index : Nat} {spans : List Text.Span} (onward : start ≤ index)
    (here : StartsWith query (cs.drop index))
    (first : ∀ i, start ≤ i → i < index → ¬ StartsWith query (cs.drop i))
    (rest : Greedy query cs (index + query.length) spans) :
    Greedy query cs start (⟨index, index + query.length⟩ :: spans)

namespace Greedy

variable {query cs : List Char} {start : Nat} {spans spans' : List Text.Span}

/-- There is one such list only. -/
theorem unique (h : Greedy query cs start spans) (h' : Greedy query cs start spans') :
    spans = spans' := by
  induction h generalizing spans' with
  | finished none =>
    cases h' with
    | finished => rfl
    | found onward here => exact absurd here (none _ onward)
  | @found start index spans onward here first rest ih =>
    cases h' with
    | finished none => exact absurd here (none index onward)
    | @found _ index' spans' onward' here' first' rest' =>
      rcases Nat.lt_trichotomy index index' with before | rfl | behind
      · exact absurd here (first' index onward before)
      · rw [ih rest']
      · exact absurd here' (first index' onward' behind)

/-- A position without an occurrence is passed over. -/
theorem pass (differs : ¬ StartsWith query (cs.drop start))
    (h : Greedy query cs (start + 1) spans) : Greedy query cs start spans := by
  cases h with
  | finished none =>
    refine .finished fun index onward => ?_
    rcases Nat.eq_or_lt_of_le onward with rfl | further
    · exact differs
    · exact none index further
  | found onward here first rest =>
    refine .found (Nat.le_of_succ_le onward) here (fun i behind before => ?_) rest
    rcases Nat.eq_or_lt_of_le behind with rfl | further
    · exact differs
    · exact first i further before

end Greedy

/-- The search for matches finds the occurrences one behind the other. -/
theorem greedy_spansFrom {query cs rest : List Char} (typed : query ≠ []) {index : Nat}
    {before : Option Char} (h : Cursor.InText cs ⟨index, before, rest⟩) :
    Greedy query cs index ((ofLiteral query).spansFrom index before rest) := by
  fun_induction spansFrom (ofLiteral query) index before rest with
  | case1 index before =>
    refine .finished fun later onward starts => typed ?_
    have atEnd : cs.drop later = [] :=
      List.drop_eq_nil_iff.mpr (Nat.le_trans (List.drop_eq_nil_iff.mp h.rest.symm) onward)
    rw [atEnd] at starts
    exact List.map_eq_nil_iff.mp (List.prefix_nil.mp starts)
  | case2 index before c rest q first onward ih =>
    have inText : q.InText cs := inText_of_mem_ends h (List.mem_of_head? first)
    obtain ⟨here, behind⟩ := startsWith_of_ends first
    rw [h.rest] at here
    have others : Greedy query cs q.index _ := ih inText
    rw [behind] at others ⊢
    refine .found (Nat.le_refl index) here (fun i after before => ?_) others
    exact absurd before (Nat.not_lt_of_le after)
  | case3 index before c rest q first still ih =>
    have inText : q.InText cs := inText_of_mem_ends h (List.mem_of_head? first)
    obtain ⟨-, behind⟩ := startsWith_of_ends first
    -- a match is as long as the query, so it moves forward
    have long : 0 < query.length := List.length_pos_iff.mpr typed
    exact absurd ((h.forward inText).mpr (by omega)) still
  | case4 index before c rest none ih =>
    have differs : ¬ StartsWith query (cs.drop index) := by
      rw [← h.rest]
      exact fun starts => ends_ofLiteral_ne_nil_iff.mpr starts (List.head?_eq_none_iff.mp none)
    exact (ih h.next).pass differs

/-- The spans of a query are its occurrences found from left to right. -/
theorem greedy_spans {query : List Char} (typed : query ≠ []) (cs : List Char) :
    Greedy query cs 0 ((ofLiteral query).spans cs) :=
  greedy_spansFrom typed (.start cs)

end Picklist.Pattern
