import Picklist.Pattern.Match

/-!
# Matches stand apart

A pattern leads from the places of a text to places of the same text, and the matches of a text are
searched for behind the last one found. So whatever the pattern is, its matches in a text are not
empty, lie inside the text and follow each other without overlap. Where there is one, the pattern
matches the text.
-/

set_option autoImplicit false

namespace Picklist

/-- Spans that are not empty and follow each other without overlap, from a position on and up to a
bound. -/
def Text.Apart (bound : Nat) : Nat → List Text.Span → Prop
  | _, [] => True
  | start, span :: spans =>
    start ≤ span.start ∧ span.start < span.stop ∧ span.stop ≤ bound ∧
      Apart bound span.stop spans

namespace Text.Apart

variable {bound start : Nat} {spans : List Text.Span}

/-- Spans apart from a start are apart from an earlier one. -/
theorem weaken {start' : Nat} (le : start' ≤ start) (apart : Apart bound start spans) :
    Apart bound start' spans := by
  cases spans with
  | nil => trivial
  | cons span spans =>
    obtain ⟨first, rest⟩ := apart
    exact ⟨Nat.le_trans le first, rest⟩

/-- Standing apart is a matter of every single span and of every pair of them. -/
theorem iff_pairwise : Apart bound start spans ↔
    (∀ span ∈ spans, start ≤ span.start ∧ span.start < span.stop ∧ span.stop ≤ bound) ∧
      spans.Pairwise fun s t => s.stop ≤ t.start := by
  induction spans generalizing start with
  | nil => simp [Apart]
  | cons span spans ih =>
    rw [Apart, ih, List.forall_mem_cons, List.pairwise_cons]
    constructor
    · rintro ⟨first, filled, inside, others, pairs⟩
      refine ⟨⟨⟨first, filled, inside⟩, ?_⟩, fun t member => (others t member).1, pairs⟩
      intro t member
      have behind := others t member
      omega
    · rintro ⟨⟨⟨first, filled, inside⟩, others⟩, behind, pairs⟩
      exact ⟨first, filled, inside, fun t member => ⟨behind t member, (others t member).2⟩, pairs⟩

end Text.Apart

namespace Pattern

/-! ## Steps inside a text -/

namespace Step

/-- The step leads from places of a kind to places of this kind only. -/
def Keeps (kind : Cursor → Prop) (f : Step) : Prop :=
  ∀ places, (∀ p ∈ places, kind p) → ∀ q ∈ f places, kind q

variable {kind : Cursor → Prop} {f g : Step}

/-- Adding a place of the kind leaves only places of the kind. -/
theorem add_keeps {found : List Cursor} (inside : ∀ q ∈ found, kind q) {p : Cursor} (hp : kind p) :
    ∀ q ∈ add found p, kind q := by
  unfold add
  split
  · exact inside
  · intro q member
    rcases List.mem_append.mp member with old | new
    · exact inside q old
    · rw [List.mem_singleton.mp new]
      exact hp

/-- Leaving out repeated places leaves only places of the kind. -/
theorem distinct_keeps {places : List Cursor} (inside : ∀ q ∈ places, kind q) :
    ∀ q ∈ distinct places, kind q := by
  unfold distinct
  apply List.foldlRecOn (motive := fun found => ∀ q ∈ found, kind q)
  · intro q member
    cases member
  · intro found kept p member
    exact add_keeps kept (inside p member)

/-- Staying keeps to the kind of places. -/
theorem Keeps.stay : Keeps kind stay := fun _ inside => inside

/-- One step after another keeps to the kind if both do. -/
theorem Keeps.andThen (hf : Keeps kind f) (hg : Keeps kind g) : Keeps kind (andThen f g) :=
  fun places inside => hg _ (hf places inside)

/-- From a single place of the kind a step leads to places of the kind. -/
theorem Keeps.single (hf : Keeps kind f) {p : Cursor} (hp : kind p) : ∀ q ∈ f [p], kind q := by
  apply hf
  intro q member
  rw [List.mem_singleton.mp member]
  exact hp

/-- A choice of steps keeps to the kind if both do. -/
theorem Keeps.orElse (hf : Keeps kind f) (hg : Keeps kind g) : Keeps kind (orElse f g) := by
  intro places inside
  apply distinct_keeps
  intro q member
  obtain ⟨p, place, reached⟩ := List.mem_flatMap.mp member
  rcases List.mem_append.mp reached with first | second
  · exact hf.single (inside p place) q first
  · exact hg.single (inside p place) q second

/-- An optional step keeps to the kind if the step does. -/
theorem Keeps.optional (hf : Keeps kind f) (greedy : Bool) : Keeps kind (optional greedy f) := by
  unfold Step.optional
  split
  · exact hf.orElse .stay
  · exact Keeps.stay.orElse hf

/-- Some repetitions of a step keep to the kind if the step does. -/
theorem Keeps.times (hf : Keeps kind f) (n : Nat) : Keeps kind (times f n) := by
  induction n with
  | zero => exact .stay
  | succ n ih => exact hf.andThen ih

/-- Up to some repetitions of a step keep to the kind if the step does. -/
theorem Keeps.upTo (hf : Keeps kind f) (greedy : Bool) (n : Nat) :
    Keeps kind (upTo greedy f n) := by
  induction n with
  | zero => exact .stay
  | succ n ih => exact (hf.andThen ih).optional greedy

/-- The rounds of a repetition, by induction on what follows the place that they start from. -/
theorem rounds_keeps (hf : Keeps kind f) (greedy : Bool) {p : Cursor} (hp : kind p)
    {found : List Cursor} (inside : ∀ q ∈ found, kind q) :
    ∀ q ∈ rounds greedy f p found, kind q := by
  induction left : p.rest.length using Nat.strongRecOn generalizing p found with
  | ind n ih =>
    subst left
    have onward {found : List Cursor} (inside : ∀ q ∈ found, kind q) :
        ∀ q ∈ (f [p]).foldl (fun acc q =>
          if _h : q.rest.length < p.rest.length then rounds greedy f q acc else acc) found,
          kind q := by
      apply List.foldlRecOn (motive := fun found => ∀ q ∈ found, kind q)
      · exact inside
      · intro acc kept q member
        split
        · rename_i shorter
          exact ih _ shorter (hf.single hp q member) kept rfl
        · exact kept
    rw [rounds]
    split
    · exact inside
    · dsimp only
      split
      · exact add_keeps (onward inside) hp
      · exact onward (add_keeps inside hp)

/-- One or more repetitions of a step keep to the kind if the step does. -/
theorem Keeps.oneOrMore (hf : Keeps kind f) (greedy : Bool) : Keeps kind (oneOrMore greedy f) := by
  intro places inside
  unfold Step.oneOrMore
  apply List.foldlRecOn (motive := fun found => ∀ q ∈ found, kind q)
  · intro q member
    cases member
  · intro found kept p place
    unfold firstRound
    apply List.foldlRecOn (motive := fun found => ∀ q ∈ found, kind q)
    · exact kept
    · intro acc kept q member
      have reached : kind q := hf.single (inside p place) q member
      split
      · exact rounds_keeps hf greedy reached kept
      · exact add_keeps kept reached

/-- Repetitions from a least number on keep to the kind if the step does. -/
theorem Keeps.atLeast (hf : Keeps kind f) (greedy : Bool) (least : Nat) :
    Keeps kind (atLeast greedy f least) := by
  cases least with
  | zero => exact (hf.oneOrMore greedy).optional greedy
  | succ n => exact (hf.times n).andThen (hf.oneOrMore greedy)

end Step

/-- A pattern keeps every kind of place that reading one character keeps. -/
theorem reach_keeps {kind : Cursor → Prop}
    (onward : ∀ (p q : Cursor) (accepts : Char → Bool), kind p → p.advance? accepts = some q →
      kind q) (pattern : Pattern) : Step.Keeps kind pattern.reach := by
  induction pattern with
  | empty => exact .stay
  | one test =>
    intro places inside q member
    obtain ⟨p, place, step⟩ := List.mem_filterMap.mp member
    exact onward p q _ (inside p place) step
  | assertion condition =>
    intro places inside q member
    exact inside q (List.mem_filter.mp member).1
  | cat first second ihFirst ihSecond => exact ihFirst.andThen ihSecond
  | alt first second ihFirst ihSecond => exact ihFirst.orElse ihSecond
  | repeated body least most greedy ih =>
    cases most with
    | none => exact ih.atLeast greedy least
    | some most => exact (ih.times least).andThen (ih.upTo greedy (most - least))

/-- A place of the given text. -/
structure Cursor.InText (cs : List Char) (p : Cursor) : Prop where
  index : p.index ≤ cs.length
  before : p.before = (cs.take p.index).getLast?
  rest : p.rest = cs.drop p.index

/-- The start of a text is a place in it. -/
theorem Cursor.InText.start (cs : List Char) : Cursor.InText cs ⟨0, none, cs⟩ :=
  ⟨Nat.zero_le _, rfl, rfl⟩

/-- From a place in a text what is left of the text lies ahead. -/
theorem Cursor.InText.length {cs : List Char} {p : Cursor} (h : p.InText cs) :
    p.rest.length = cs.length - p.index := by
  rw [h.rest, List.length_drop]

/-- Behind a character there is another place in the text. -/
theorem Cursor.InText.next {cs rest : List Char} {index : Nat} {before : Option Char} {c : Char}
    (h : Cursor.InText cs ⟨index, before, c :: rest⟩) :
    Cursor.InText cs ⟨index + 1, some c, rest⟩ := by
  have inside : rest.length + 1 = cs.length - index := h.length
  have follows : cs.drop index = c :: rest := h.rest.symm
  refine ⟨by dsimp only; omega, ?_, ?_⟩
  · have here : cs[index]? = some c := by rw [← List.head?_drop, follows, List.head?_cons]
    rw [List.take_add_one, here, Option.toList_some, List.getLast?_concat]
  · rw [← List.drop_drop, follows, List.drop_one, List.tail_cons]

/-- A test that accepts a character leads to another place in the text. -/
theorem Cursor.InText.advance {cs : List Char} {p q : Cursor} {accepts : Char → Bool}
    (h : p.InText cs) (step : p.advance? accepts = some q) : q.InText cs := by
  obtain ⟨index, before, rest⟩ := p
  cases rest with
  | nil => cases step
  | cons c rest =>
    simp only [advance?, Option.ite_none_right_eq_some, Option.some.injEq] at step
    obtain ⟨-, rfl⟩ := step
    exact h.next

/-- The position says which place of the text it is. -/
theorem Cursor.InText.unique {cs : List Char} {p q : Cursor} (hp : p.InText cs) (hq : q.InText cs)
    (same : p.index = q.index) : p = q := by
  obtain ⟨index, before, rest⟩ := p
  obtain ⟨index', before', rest'⟩ := q
  obtain rfl : index = index' := same
  obtain rfl : before = before' := hp.before.trans hq.before.symm
  obtain rfl : rest = rest' := hp.rest.trans hq.rest.symm
  rfl

/-- Of two places in a text the later one has less ahead. -/
theorem Cursor.InText.forward {cs : List Char} {p q : Cursor} (hp : p.InText cs)
    (hq : q.InText cs) : q.rest.length < p.rest.length ↔ p.index < q.index := by
  have before := hp.index
  have behind := hq.index
  rw [hp.length, hq.length]
  omega

/-- Matches end in the text that they start in. -/
theorem inText_of_mem_ends {cs : List Char} {pattern : Pattern} {p q : Cursor} (h : p.InText cs)
    (member : q ∈ pattern.ends p) : q.InText cs :=
  (reach_keeps (fun _ _ _ inText step => inText.advance step) pattern).single h q member

/-! ## Places where a pattern matches -/

/-- A pattern matches behind a place if it matches at some place from there on. -/
theorem matchesFrom_iff (pattern : Pattern) {cs rest : List Char} {index : Nat}
    {before : Option Char} (h : Cursor.InText cs ⟨index, before, rest⟩) :
    pattern.matchesFrom index before rest = true ↔
      ∃ p : Cursor, p.InText cs ∧ index ≤ p.index ∧ pattern.ends p ≠ [] := by
  induction rest generalizing index before with
  | nil =>
    have atEnd : cs.length ≤ index := List.drop_eq_nil_iff.mp h.rest.symm
    simp only [matchesFrom, Bool.not_eq_true', List.isEmpty_eq_false_iff]
    constructor
    · intro found
      exact ⟨_, h, Nat.le_refl index, found⟩
    · rintro ⟨p, place, onward, found⟩
      have same : index = p.index := Nat.le_antisymm onward (Nat.le_trans place.index atEnd)
      rw [h.unique place same]
      exact found
  | cons c rest ih =>
    rw [matchesFrom, Bool.or_eq_true, ih h.next]
    simp only [Bool.not_eq_true', List.isEmpty_eq_false_iff]
    constructor
    · rintro (found | ⟨p, place, onward, found⟩)
      · exact ⟨_, h, Nat.le_refl index, found⟩
      · exact ⟨p, place, Nat.le_of_succ_le onward, found⟩
    · rintro ⟨p, place, onward, found⟩
      rcases Nat.eq_or_lt_of_le onward with same | further
      · left
        rw [h.unique place same]
        exact found
      · exact .inr ⟨p, place, further, found⟩

/-- A text matches if the pattern has a match from some place in it. -/
theorem matchesIn_iff (pattern : Pattern) (cs : List Char) :
    pattern.matchesIn cs = true ↔ ∃ p : Cursor, p.InText cs ∧ pattern.ends p ≠ [] := by
  rw [matchesIn, matchesFrom_iff pattern (.start cs)]
  simp only [Nat.zero_le, true_and]

/-! ## Matches from left to right -/

/-- The matches behind a place stand apart. A match that is not empty is followed by the search
behind it, and all other places by the search behind the next character. -/
theorem spansFrom_apart (pattern : Pattern) {cs rest : List Char} {index : Nat}
    {before : Option Char} (h : Cursor.InText cs ⟨index, before, rest⟩) :
    Text.Apart cs.length index (pattern.spansFrom index before rest) := by
  fun_induction spansFrom pattern index before rest with
  | case1 => trivial
  | case2 index before c rest q first onward ih =>
    have inText : q.InText cs := inText_of_mem_ends h (List.mem_of_head? first)
    exact ⟨Nat.le_refl index, (h.forward inText).mp onward, inText.index, ih inText⟩
  | case3 index before c rest q first still ih => exact (ih h.next).weaken (Nat.le_succ index)
  | case4 index before c rest none ih => exact (ih h.next).weaken (Nat.le_succ index)

/-- The spans of a pattern lie in the text, each behind the one before. -/
theorem spans_apart (pattern : Pattern) (cs : List Char) :
    Text.Apart cs.length 0 (pattern.spans cs) :=
  spansFrom_apart pattern (.start cs)

/-- At some place of the text the preferred match is not empty. -/
def HasMatch (pattern : Pattern) (cs : List Char) : Prop :=
  ∃ p q : Cursor, p.InText cs ∧ (pattern.ends p).head? = some q ∧ p.index < q.index

/-- Where spans are found there is a match that is not empty. -/
theorem hasMatch_of_spansFrom (pattern : Pattern) {cs rest : List Char} {index : Nat}
    {before : Option Char} (h : Cursor.InText cs ⟨index, before, rest⟩)
    (found : pattern.spansFrom index before rest ≠ []) : pattern.HasMatch cs := by
  fun_induction spansFrom pattern index before rest with
  | case1 => exact absurd rfl found
  | case2 index before c rest q first onward ih =>
    have inText : q.InText cs := inText_of_mem_ends h (List.mem_of_head? first)
    exact ⟨_, q, h, first, (h.forward inText).mp onward⟩
  | case3 index before c rest q first still ih => exact ih h.next found
  | case4 index before c rest none ih => exact ih h.next found

/-- The search misses no place where the preferred match is not empty, unless an earlier match
covers it. -/
theorem spansFrom_ne_nil (pattern : Pattern) {cs rest : List Char} {index : Nat}
    {before : Option Char} (h : Cursor.InText cs ⟨index, before, rest⟩) {p q : Cursor}
    (place : p.InText cs) (onward : index ≤ p.index) (first : (pattern.ends p).head? = some q)
    (forward : p.index < q.index) : pattern.spansFrom index before rest ≠ [] := by
  have inText : q.InText cs := inText_of_mem_ends place (List.mem_of_head? first)
  fun_induction spansFrom pattern index before rest with
  | case1 index before =>
    have atEnd : cs.length ≤ index := List.drop_eq_nil_iff.mp h.rest.symm
    have behind := inText.index
    omega
  | case2 => exact List.cons_ne_nil _ _
  | case3 index before c rest q' first' still ih =>
    apply ih h.next
    rcases Nat.eq_or_lt_of_le onward with same | further
    · obtain rfl : _ = p := h.unique place same
      obtain rfl : q' = q := Option.some.inj (first'.symm.trans first)
      exact absurd ((h.forward inText).mpr forward) still
    · exact further
  | case4 index before c rest none ih =>
    apply ih h.next
    rcases Nat.eq_or_lt_of_le onward with same | further
    · obtain rfl : _ = p := h.unique place same
      rw [none] at first
      cases first
    · exact further

/-- Spans are found just where there is a match that is not empty. -/
theorem spans_ne_nil_iff (pattern : Pattern) (cs : List Char) :
    pattern.spans cs ≠ [] ↔ pattern.HasMatch cs := by
  constructor
  · exact hasMatch_of_spansFrom pattern (.start cs)
  · rintro ⟨p, q, place, first, forward⟩
    exact spansFrom_ne_nil pattern (.start cs) place (Nat.zero_le _) first forward

/-- A text with a match that is not empty matches. -/
theorem HasMatch.matchesIn {pattern : Pattern} {cs : List Char} (h : pattern.HasMatch cs) :
    pattern.matchesIn cs = true := by
  obtain ⟨p, q, place, first, -⟩ := h
  refine (matchesIn_iff pattern cs).mpr ⟨p, place, ?_⟩
  intro none
  rw [none] at first
  cases first

end Pattern

end Picklist
