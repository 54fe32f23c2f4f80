import Mathlib.Data.List.Forall2
import Picklist.Proofs.Select.Labels
import Picklist.Proofs.Text.FullDecomposition
import Picklist.Proofs.Text.Stretches

/-!
# Highlighted stretches are the sources of matches

Every character of a label folds to a stretch of the folded text, which may be empty. A match begins
inside the stretch of one character and ends inside the stretch of another. The highlighted stretch
goes from the first of these characters to the second; where the match takes all that the second
folds to, it goes on over the characters behind it that vanish.
-/

set_option autoImplicit false

namespace Picklist.Select

open Text

/-! ## Where folded characters are placed -/

/-- When the last origin is extended all others stay as they are. -/
theorem Origin.of_getElem?_extendLast {origins : List Origin} {stop place : Nat} {o' : Origin}
    (here : (extendLast stop origins)[place]? = some o') :
    (∃ o, origins[place]? = some o ∧ o' = o ∧ place + 1 < origins.length) ∨
      ∃ o, origins[place]? = some o ∧ o' = { o with source := { o.source with stop } } ∧
        place + 1 = origins.length := by
  rcases List.eq_nil_or_concat origins with rfl | ⟨early, last, rfl⟩
  · cases here
  · rw [List.concat_eq_append] at here ⊢
    rw [extendLast_concat] at here
    rw [List.length_append, List.length_singleton]
    rcases Nat.lt_trichotomy place early.length with before | rfl | behind
    · left
      rw [List.getElem?_append_left before] at here ⊢
      exact ⟨o', here, rfl, by omega⟩
    · right
      rw [List.getElem?_concat_length] at here ⊢
      exact ⟨last, rfl, (Option.some.inj here).symm, rfl⟩
    · rw [List.getElem?_eq_none (by simp; omega)] at here
      cases here

/-- The source of the folded character at a place: it begins with the character that folds to this
place. It goes on behind that character only if nothing else of it is folded behind the place, and
then over all characters that vanish. -/
structure PlacedAt (fold : Bool) (cs : List Char) (place : Nat) (source : Span) : Prop where
  filled : source.start < source.stop
  inside : source.stop ≤ cs.length
  first : (foldedAt fold cs source.start).start ≤ place
  last : place < (foldedAt fold cs source.start).stop
  partly : place + 1 < (foldedAt fold cs source.start).stop → source.stop = source.start + 1
  wholly : place + 1 = (foldedAt fold cs source.start).stop →
    foldedBefore fold cs source.stop = place + 1 ∧
      ∀ c, cs[source.stop]? = some c → normalize fold [c] ≠ []

namespace PlacedAt

variable {fold : Bool} {cs : List Char} {place place' : Nat} {source source' : Span} {c : Char}

/-- A text that is its own folding has every character in its place. -/
theorem self (same : ∀ position ≤ cs.length, foldedBefore fold cs position = position)
    (inside : place < cs.length) : PlacedAt fold cs place ⟨place, place + 1⟩ := by
  have before := same place (Nat.le_of_lt inside)
  have behind := same (place + 1) inside
  refine ⟨Nat.lt_succ_self place, inside, Nat.le_of_eq before, ?_, fun _ => rfl,
    fun _ => ⟨behind, ?_⟩⟩
  · exact Nat.lt_of_lt_of_eq (Nat.lt_succ_self place) behind.symm
  · intro c here gone
    have length := (List.getElem?_eq_some_iff.mp here).1
    have next := foldedBefore_succ fold here
    rw [gone, List.length_nil, same (place + 1) inside, same (place + 1 + 1) length] at next
    omega

/-- Folded characters come from the source in its order. -/
theorem start_le (h : PlacedAt fold cs place source) (ordered : place ≤ place')
    (h' : PlacedAt fold cs place' source') : source.start ≤ source'.start := by
  apply Nat.le_of_lt_succ
  apply lt_of_foldedBefore_lt fold cs
  exact Nat.lt_of_le_of_lt h.first (Nat.lt_of_le_of_lt ordered h'.last)

/-- Sources are in the order of the places. -/
theorem mono (before : place < place') (h : PlacedAt fold cs place source)
    (h' : PlacedAt fold cs place' source') :
    source.start ≤ source'.start ∧ source.stop ≤ source'.stop := by
  have start := h.start_le (Nat.le_of_lt before) h'
  have filled := h'.filled
  refine ⟨start, ?_⟩
  rcases Nat.lt_or_eq_of_le (Nat.succ_le_of_lt h.last) with partly | wholly
  · have stop := h.partly partly
    omega
  · obtain ⟨stop, -⟩ := h.wholly wholly
    have ordered : source.stop < source'.start + 1 := by
      apply lt_of_foldedBefore_lt fold cs
      have last : place' < foldedBefore fold cs (source'.start + 1) := h'.last
      omega
    omega

/-! ### One character more -/

/-- A character at the end of the source does not change where others are folded. -/
theorem foldedAt_concat (h : PlacedAt fold cs place source) :
    foldedAt fold (cs ++ [c]) source.start = foldedAt fold cs source.start := by
  have filled := h.filled
  have inside := h.inside
  unfold foldedAt
  rw [foldedBefore_append [c] (by omega), foldedBefore_append [c] (by omega)]

/-- A source stays as it is if the next character does not vanish, or stands behind others that do
not. -/
theorem concat (h : PlacedAt fold cs place source)
    (kept : normalize fold [c] ≠ [] ∨ place + 1 < (normalize fold cs).length) :
    PlacedAt fold (cs ++ [c]) place source := by
  have inside := h.inside
  refine ⟨h.filled, ?_, ?_, ?_, ?_, ?_⟩
  · rw [List.length_append]
    omega
  · rw [h.foldedAt_concat]
    exact h.first
  · rw [h.foldedAt_concat]
    exact h.last
  · rw [h.foldedAt_concat]
    exact h.partly
  · rw [h.foldedAt_concat]
    intro wholly
    obtain ⟨stop, next⟩ := h.wholly wholly
    rw [foldedBefore_append [c] inside]
    refine ⟨stop, fun d here => ?_⟩
    rcases Nat.lt_or_eq_of_le inside with before | atEnd
    · rw [List.getElem?_append_left before] at here
      exact next d here
    · rw [atEnd, List.getElem?_concat_length] at here
      obtain rfl := Option.some.inj here
      rw [atEnd, foldedBefore_length] at stop
      exact kept.resolve_right (by omega)

/-- The last source goes on over a character that vanishes. -/
theorem extend (h : PlacedAt fold cs place source) (last : place + 1 = (normalize fold cs).length)
    (gone : normalize fold [c] = []) :
    PlacedAt fold (cs ++ [c]) place { source with stop := cs.length + 1 } := by
  have filled := h.filled
  have inside := h.inside
  have all : (foldedAt fold cs source.start).stop ≤ place + 1 := by
    rw [last, ← foldedBefore_length]
    exact foldedBefore_mono (by omega)
  have length : (cs ++ [c]).length = cs.length + 1 := List.length_append
  refine ⟨by dsimp only; omega, Nat.le_of_eq length.symm, ?_, ?_, ?_, ?_⟩
  · rw [h.foldedAt_concat]
    exact h.first
  · rw [h.foldedAt_concat]
    exact h.last
  · rw [h.foldedAt_concat]
    intro partly
    omega
  · intro _
    dsimp only
    rw [← length, foldedBefore_length, normalize_append, gone, List.append_nil, ← last]
    refine ⟨rfl, fun d here => ?_⟩
    rw [List.getElem?_eq_none (Nat.le_refl _)] at here
    cases here

/-- The next character is the source of what it folds to. -/
theorem next {letter : Nat} (inside : letter < (normalize fold [c]).length) :
    PlacedAt fold (cs ++ [c]) ((normalize fold cs).length + letter) ⟨cs.length, cs.length + 1⟩ := by
  have length : (cs ++ [c]).length = cs.length + 1 := List.length_append
  have first : foldedBefore fold (cs ++ [c]) cs.length = (normalize fold cs).length := by
    rw [foldedBefore_append [c] (Nat.le_refl _), foldedBefore_length]
  have last : foldedBefore fold (cs ++ [c]) (cs.length + 1) =
      (normalize fold cs).length + (normalize fold [c]).length := by
    rw [← length, foldedBefore_length, normalize_append, List.length_append]
  refine ⟨Nat.lt_succ_self _, Nat.le_of_eq length.symm, ?_, ?_, fun _ => rfl, fun wholly => ?_⟩
  · rw [foldedAt, first]
    exact Nat.le_add_right _ _
  · rw [foldedAt, last]
    exact Nat.add_lt_add_left inside _
  · refine ⟨wholly.symm, fun d here => ?_⟩
    rw [← length, List.getElem?_eq_none (Nat.le_refl _)] at here
    cases here

/-- Origins are placed, whatever the text is. -/
theorem ofText {o : Origin} (here : (Origin.ofText cs)[place]? = some o) :
    PlacedAt true cs place o.source := by
  -- a character that vanishes concerns the last place only, any other has places of its own
  induction cs using List.reverseRecOn generalizing place o with
  | nil => cases here
  | append_singleton cs c ih =>
    have length : (Origin.ofText cs).length = (normalize true cs).length := by
      rw [← List.length_map Origin.char, Origin.map_char_ofText, normalize_true]
    rw [Origin.ofText_concat, Origin.add] at here
    split at here
    · rename_i gone
      rw [← normalize_true] at gone
      obtain ⟨o, old, rfl, before⟩ | ⟨o, old, rfl, last⟩ := Origin.of_getElem?_extendLast here
      · exact (ih old).concat (.inr (by omega))
      · exact (ih old).extend (by omega) gone
    · rename_i gone
      rw [← normalize_true] at here gone
      rcases Nat.lt_or_ge place (Origin.ofText cs).length with old | new
      · rw [List.getElem?_append_left old] at here
        exact (ih here).concat (.inl gone)
      · obtain ⟨letter, rfl⟩ := Nat.exists_eq_add_of_le new
        rw [List.getElem?_append_right new, Nat.add_sub_cancel_left, List.getElem?_map] at here
        obtain ⟨d, among, rfl⟩ := Option.map_eq_some_iff.mp here
        rw [length]
        exact next (List.getElem?_eq_some_iff.mp among).1

end PlacedAt

/-! ## Sources of matches -/

/-- The character at the position is the last one that has a part in the match, and those behind it
up to the end of the source vanish. If all of its folding is matched, the source goes on as far as
characters vanish, so over all marks that follow. -/
structure EndsIn (fold : Bool) (cs : List Char) (matched source : Span) (position : Nat) :
    Prop where
  inside : source.start ≤ position ∧ position < source.stop
  first : (foldedAt fold cs position).start < matched.stop
  last : matched.stop ≤ (foldedAt fold cs position).stop
  vanish : ∀ k c, position < k → k < source.stop → cs[k]? = some c → normalize fold [c] = []
  wholly : matched.stop = (foldedAt fold cs position).stop → ∀ c, cs[source.stop]? = some c →
    normalize fold [c] ≠ [] ∧ (fold = true → Unicode.isMark c = false)

/-- The source of a match in the folded text: its folding has the match in it, and both its first
character and the last one that does not vanish have a part in the match. -/
structure IsSource (fold : Bool) (cs : List Char) (matched source : Span) : Prop where
  filled : source.start < source.stop
  inside : source.stop ≤ cs.length
  found : matched.slice (normalize fold cs) <:+: normalize fold (source.slice cs)
  first : (foldedAt fold cs source.start).start ≤ matched.start
  last : matched.start < (foldedAt fold cs source.start).stop
  ends : ∃ position, EndsIn fold cs matched source position

section

variable {fold : Bool} {cs : List Char} {matched first last : Span}

/-- The match goes as far as the places do that it ends with. -/
theorem PlacedAt.endsIn (filled : matched.start < matched.stop)
    (h : PlacedAt fold cs matched.start first) (h' : PlacedAt fold cs (matched.stop - 1) last) :
    EndsIn fold cs matched ⟨first.start, last.stop⟩ last.start where
  inside := by
    have ordered := h.start_le (Nat.le_sub_one_of_lt filled) h'
    exact ⟨ordered, h'.filled⟩
  first := Nat.lt_of_le_of_lt h'.first (by omega)
  last := by
    have stop := h'.last
    omega
  vanish := by
    intro k c behind before here
    rcases Nat.lt_or_eq_of_le (Nat.succ_le_of_lt h'.last) with partly | wholly
    · have stop := h'.partly partly
      dsimp only at before
      omega
    · -- what lies between the two ends adds nothing to the folded text
      have stop := (h'.wholly wholly).1
      have all : foldedBefore fold cs (last.start + 1) = matched.stop - 1 + 1 := wholly.symm
      have low : foldedBefore fold cs (last.start + 1) ≤ foldedBefore fold cs k :=
        foldedBefore_mono behind
      have high : foldedBefore fold cs (k + 1) ≤ foldedBefore fold cs last.stop :=
        foldedBefore_mono before
      have next := foldedBefore_succ fold here
      apply List.eq_nil_of_length_eq_zero
      omega
  wholly := by
    intro all c here
    have left := (h'.wholly (by omega)).2 c here
    refine ⟨left, ?_⟩
    rintro rfl
    rw [normalize_true] at left
    exact Bool.eq_false_iff.mpr fun mark => left (stripMarks_of_isMark mark)

/-- From the source of the first place of a match to that of its last place goes its source. -/
theorem PlacedAt.isSource (filled : matched.start < matched.stop)
    (h : PlacedAt fold cs matched.start first) (h' : PlacedAt fold cs (matched.stop - 1) last) :
    IsSource fold cs matched ⟨first.start, last.stop⟩ := by
  have ends := endsIn filled h h'
  have ordered : first.start < last.stop := Nat.lt_of_le_of_lt ends.inside.1 ends.inside.2
  refine ⟨ordered, h'.inside, ?_, h.first, h.last, last.start, ends⟩
  have stop : matched.stop ≤ foldedBefore fold cs last.stop :=
    Nat.le_trans ends.last (foldedBefore_mono h'.filled)
  rw [normalize_slice (Nat.le_of_lt ordered)]
  exact Span.slice_isInfix_slice _ h.first stop

end

/-! ## Sources in a label -/

/-- The source goes from that of the first place of the match to that of its last place. -/
structure Joins (fold : Bool) (cs : List Char) (matched source : Span) : Prop where
  filled : matched.start < matched.stop
  placed : ∃ first last, PlacedAt fold cs matched.start first ∧
    PlacedAt fold cs (matched.stop - 1) last ∧ source = ⟨first.start, last.stop⟩

namespace Joins

variable {fold : Bool} {cs : List Char} {matched matched' source source' : Span}

/-- A stretch that joins its sources comes from them. -/
theorem isSource (h : Joins fold cs matched source) : IsSource fold cs matched source := by
  obtain ⟨first, last, atStart, atStop, rfl⟩ := h.placed
  exact atStart.isSource h.filled atStop

/-- Sources of matches one behind the other are in this order too. -/
theorem mono (h : Joins fold cs matched source) (h' : Joins fold cs matched' source')
    (behind : matched.stop ≤ matched'.start) :
    source.start ≤ source'.start ∧ source.stop ≤ source'.stop := by
  have filled := h.filled
  have filled' := h'.filled
  obtain ⟨first, last, atStart, atStop, rfl⟩ := h.placed
  obtain ⟨first', last', atStart', atStop', rfl⟩ := h'.placed
  exact ⟨(atStart.mono (by omega) atStart').1, (atStop.mono (by omega) atStop').2⟩

/-- If a text is its own folding, so is every beginning of it. -/
theorem normalize_take_of_same (same : normalize fold cs = cs) (position : Nat) :
    normalize fold (cs.take position) = cs.take position := by
  cases fold with
  | false => rfl
  | true =>
    rw [normalize_true] at same ⊢
    apply stripMarks_of_isFolded
    intro c member
    have among : c ∈ stripMarks cs := by
      rw [same]
      exact List.mem_of_mem_take member
    exact isFolded_of_mem among

/-- In a text that is its own folding, matches are their own sources. -/
theorem self (same : normalize fold cs = cs) (filled : matched.start < matched.stop)
    (inside : matched.stop ≤ cs.length) : Joins fold cs matched matched := by
  have places : ∀ position ≤ cs.length, foldedBefore fold cs position = position := by
    intro position inside
    rw [foldedBefore, normalize_take_of_same same, List.length_take_of_le inside]
  refine ⟨filled, _, _, .self places (by omega), .self places (by omega), ?_⟩
  rw [Nat.sub_add_cancel (by omega)]

/-- The stretch that is found for a match joins its sources. -/
theorem of_sourceSpan? (filled : matched.start < matched.stop)
    (found : Origin.sourceSpan? (Origin.ofText cs) matched = some source) :
    Joins true cs matched source := by
  simp only [Origin.sourceSpan?, Option.bind_eq_bind, Option.bind_eq_some_iff] at found
  obtain ⟨first, atStart, last, atStop, joined⟩ := found
  exact ⟨filled, first.source, last.source, .ofText atStart, .ofText atStop,
    (Option.some.inj joined).symm⟩

end Joins

/-- Where each entry has a related image, the images are related entry by entry. -/
theorem forall₂_filterMap {α β : Type} {related : α → β → Prop} {f : α → Option β} {xs : List α}
    (found : ∀ x ∈ xs, ∃ y, f x = some y ∧ related x y) :
    List.Forall₂ related xs (xs.filterMap f) := by
  induction xs with
  | nil => exact .nil
  | cons x xs ih =>
    obtain ⟨⟨y, here, first⟩, rest⟩ := List.forall_mem_cons.mp found
    rw [List.filterMap_cons_some here]
    exact .cons first (ih rest)

namespace Expression

variable (e : Expression)

/-- The highlighted stretches of a label are the sources of the matches, one for each in turn. -/
theorem labelSpans_joins (fold : Bool) (cs : List Char) :
    List.Forall₂ (Joins fold cs) (e.spans (normalize fold cs)) (e.labelSpans fold cs) := by
  have bounds := (Apart.iff_pairwise.mp (e.spans_apart (normalize fold cs))).1
  have unfolded (same : normalize fold cs = cs) :
      List.Forall₂ (Joins fold cs) (e.spans cs) (e.spans cs) := by
    rw [same] at bounds
    rw [List.forall₂_same]
    intro matched member
    exact .self same (bounds matched member).2.1 (bounds matched member).2.2
  cases fold with
  | false => exact unfolded rfl
  | true =>
    rcases e.labelSpans_eq true cs with ⟨plain, same⟩ | ⟨folded, same⟩
    · rw [plain, same]
      exact unfolded same
    · rw [folded]
      apply forall₂_filterMap
      intro matched member
      have filled := (bounds matched member).2.1
      rw [same] at member
      obtain ⟨source, found, -⟩ := e.exists_source member
      exact ⟨source, found, .of_sourceSpan? filled found⟩

/-- Highlighted stretches begin and end in ascending order. -/
theorem labelSpans_ascending (fold : Bool) (cs : List Char) :
    (e.labelSpans fold cs).Pairwise fun s t => s.start ≤ t.start ∧ s.stop ≤ t.stop := by
  have joins := e.labelSpans_joins fold cs
  have behind := (Apart.iff_pairwise.mp (e.spans_apart (normalize fold cs))).2
  rw [List.pairwise_iff_getElem] at behind ⊢
  intro i j here there before
  have length := joins.length_eq
  exact (joins.get (by omega) here).mono (joins.get (by omega) there)
    (behind i j (by omega) (by omega) before)

end Expression

end Picklist.Select
