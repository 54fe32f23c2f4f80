import Mathlib.Data.List.Induction
import Picklist.Proofs.Text.Folding
import Picklist.Select.Expression

/-!
# Where folded characters come from

The origins of a text are its folded characters, each with the stretch of the text that it came
from. Character by character they spell the folded text. Their stretches are not empty, lie inside
the text and are in ascending order. Where no character folds to several, they do not overlap
either; the letters of a decomposed syllable share one stretch.
-/

set_option autoImplicit false

namespace Picklist.Select

open Text

namespace Origin

/-! ## What is spelled -/

/-- Only the last origin is extended. -/
theorem extendLast_concat (stop : Nat) (origins : List Origin) (o : Origin) :
    extendLast stop (origins ++ [o]) =
      origins ++ [{ o with source := { o.source with stop } }] := by
  induction origins with
  | nil => rfl
  | cons first rest ih =>
    cases rest with
    | nil => rfl
    | cons second rest => exact congrArg (first :: ·) ih

/-- Extending an origin leaves the folded text alone. -/
theorem map_char_extendLast (stop : Nat) (origins : List Origin) :
    (extendLast stop origins).map char = origins.map char := by
  rcases List.eq_nil_or_concat origins with rfl | ⟨init, o, rfl⟩
  · rfl
  · rw [List.concat_eq_append, extendLast_concat, List.map_append, List.map_append]
    rfl

/-- Adding a character adds its folding to the folded text. -/
theorem map_char_add (origins : List Origin) (c : Char) (position : Nat) :
    (add origins c position).map char = origins.map char ++ stripMarks [c] := by
  unfold add
  split
  · rename_i none
    rw [map_char_extendLast, none, List.append_nil]
  · rw [List.map_append, List.map_map]
    congr 1
    exact List.map_id _

/-- The origins of a longer text are those of the shorter one, and the next character added. -/
theorem ofText_concat (cs : List Char) (c : Char) :
    ofText (cs ++ [c]) = add (ofText cs) c cs.length := by
  unfold ofText
  rw [List.zipIdx_append, List.foldl_append, Nat.zero_add]
  rfl

/-- Folding character by character while recording origins spells the folded text. -/
theorem map_char_ofText (cs : List Char) : (ofText cs).map char = stripMarks cs := by
  induction cs using List.reverseRecOn with
  | nil => rfl
  | append_singleton cs c ih => rw [ofText_concat, map_char_add, ih, stripMarks_append]

/-! ## The stretches -/

/-- Origins with stretches before a position of the text, in ascending order. -/
structure Traced (bound : Nat) (origins : List Origin) : Prop where
  inside : ∀ o ∈ origins, o.source.start < o.source.stop ∧ o.source.stop ≤ bound
  ascending : origins.Pairwise fun a b => a.source.start ≤ b.source.start

/-- The stretches do not overlap. -/
def Separate (origins : List Origin) : Prop :=
  origins.Pairwise fun a b => a.source.stop ≤ b.source.start

variable {origins : List Origin} {position : Nat}

/-- Extending the last stretch keeps what the origins before it have to do with its start. -/
theorem pairwise_extendLast {related : Origin → Origin → Prop} (stop : Nat)
    (byStart : ∀ a b : Origin, related a b →
      related a { b with source := { b.source with stop } })
    (pairs : origins.Pairwise related) : (extendLast stop origins).Pairwise related := by
  rcases List.eq_nil_or_concat origins with rfl | ⟨init, o, rfl⟩
  · exact .nil
  · rw [List.concat_eq_append] at pairs ⊢
    rw [extendLast_concat]
    obtain ⟨among, -, order⟩ := List.pairwise_append.mp pairs
    refine List.pairwise_append.mpr ⟨among, List.pairwise_singleton _ _, ?_⟩
    intro a early b last
    rw [List.mem_singleton.mp last]
    exact byStart a o (order a early o List.mem_cons_self)

/-- No origins are traced. -/
theorem Traced.nil (bound : Nat) : Traced bound [] :=
  ⟨fun _ member => absurd member List.not_mem_nil, .nil⟩

/-- Origins stay traced when the last one reaches over another character. -/
theorem Traced.extendLast (h : Traced position origins) :
    Traced (position + 1) (extendLast (position + 1) origins) := by
  refine ⟨?_, pairwise_extendLast _ (fun _ _ order => order) h.ascending⟩
  rcases List.eq_nil_or_concat origins with rfl | ⟨init, o, rfl⟩
  · intro a member
    cases member
  · rw [List.concat_eq_append] at h ⊢
    rw [extendLast_concat]
    intro a member
    rcases List.mem_append.mp member with early | last
    · have bounds := h.inside a (List.mem_append_left _ early)
      exact ⟨bounds.1, by omega⟩
    · have bounds := h.inside o (List.mem_append_right _ List.mem_cons_self)
      rw [List.mem_singleton.mp last]
      dsimp only
      omega

/-- Origins stay traced when those of the next character are added. -/
theorem Traced.append (h : Traced position origins) (folded : List Char) :
    Traced (position + 1) (origins ++ folded.map (⟨·, ⟨position, position + 1⟩⟩)) := by
  have new {o : Origin}
      (member : o ∈ folded.map fun c => (⟨c, ⟨position, position + 1⟩⟩ : Origin)) :
      o.source = ⟨position, position + 1⟩ := by
    obtain ⟨c, -, rfl⟩ := List.mem_map.mp member
    rfl
  constructor
  · intro o member
    rcases List.mem_append.mp member with old | last
    · have bounds := h.inside o old
      exact ⟨bounds.1, by omega⟩
    · rw [new last]
      dsimp only
      omega
  · refine List.pairwise_append.mpr ⟨h.ascending, ?_, ?_⟩
    · apply List.pairwise_map.mpr
      exact List.pairwise_of_forall fun _ _ => Nat.le_refl position
    · intro a old b last
      have bounds := h.inside a old
      rw [new last]
      dsimp only
      omega

/-- Origins stay traced when a character is added, whatever it folds to. -/
theorem Traced.add (h : Traced position origins) (c : Char) :
    Traced (position + 1) (add origins c position) := by
  unfold Origin.add
  split
  · exact h.extendLast
  · exact h.append _

/-- The origins of a text are traced in it. -/
theorem traced_ofText (cs : List Char) : Traced cs.length (ofText cs) := by
  induction cs using List.reverseRecOn with
  | nil => exact .nil 0
  | append_singleton cs c ih =>
    rw [ofText_concat, List.length_append, List.length_singleton]
    exact ih.add c

/-- A character that folds to one at the most adds no overlap. -/
theorem Separate.add (separate : Separate origins) (h : Traced position origins) {c : Char}
    (single : (stripMarks [c]).length ≤ 1) : Separate (add origins c position) := by
  unfold Origin.add
  split
  · exact pairwise_extendLast _ (fun _ _ order => order) separate
  · refine List.pairwise_append.mpr ⟨separate, ?_, ?_⟩
    · generalize stripMarks [c] = folded at single
      match folded with
      | [] => exact .nil
      | [_] => exact List.pairwise_singleton _ _
    · intro a old b last
      obtain ⟨_, -, rfl⟩ := List.mem_map.mp last
      exact (h.inside a old).2

/-- Where every character folds to one at the most, no two origins share a character. -/
theorem separate_ofText {cs : List Char} (single : ∀ c ∈ cs, (stripMarks [c]).length ≤ 1) :
    Separate (ofText cs) := by
  induction cs using List.reverseRecOn with
  | nil => exact .nil
  | append_singleton cs c ih =>
    rw [ofText_concat]
    apply (ih fun d member => single d (List.mem_append_left _ member)).add (traced_ofText cs)
    exact single c (List.mem_append_right _ List.mem_cons_self)

end Origin

end Picklist.Select
