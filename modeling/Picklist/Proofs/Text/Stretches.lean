import Mathlib.Data.String.Basic
import Picklist.Proofs.Text.Folding
import Picklist.Text.Span

/-!
# Stretches of a text

A stretch of a text folds to a stretch of the folded text, and its byte range is a range between
boundaries of characters: the library's own slice of the text by these bytes has the characters of
the stretch.
-/

set_option autoImplicit false

namespace Picklist.Text

/-! ## Slices -/

/-- A stretch inside another one has a part of its text. -/
theorem Span.slice_isInfix_slice {inner outer : Span} (cs : List Char)
    (start : outer.start ≤ inner.start) (stop : inner.stop ≤ outer.stop) :
    inner.slice cs <:+: outer.slice cs := by
  have longer : (cs.take inner.stop).drop outer.start <+: outer.slice cs := by
    rw [Span.slice, List.drop_take, List.drop_take]
    exact List.take_prefix_take_left (Nat.sub_le_sub_right stop _)
  have later : inner.slice cs <:+ (cs.take inner.stop).drop outer.start := by
    rw [Span.slice, ← Nat.add_sub_cancel' start, ← List.drop_drop]
    exact List.drop_suffix _ _
  exact later.isInfix.trans longer.isInfix

/-- A text up to the end of a stretch is the text up to its start and the stretch. -/
theorem Span.take_stop {span : Span} (cs : List Char) (ordered : span.start ≤ span.stop) :
    cs.take span.stop = cs.take span.start ++ span.slice cs := by
  rw [Span.slice, ← Nat.min_eq_left ordered, ← List.take_take, Nat.min_eq_left ordered,
    List.take_append_drop]

/-! ## Where characters fold to -/

/-- Normalizing a string normalizes its characters. -/
theorem toList_normalizeString (fold : Bool) (text : String) :
    (normalizeString fold text).toList = normalize fold text.toList :=
  String.toList_ofList

/-- Two texts, one after the other, are normalized one by one. -/
theorem normalize_append (fold : Bool) (cs ds : List Char) :
    normalize fold (cs ++ ds) = normalize fold cs ++ normalize fold ds := by
  cases fold with
  | false => rfl
  | true => simp only [normalize_true, stripMarks_append]

/-- The length of what the characters before a position fold to. -/
def foldedBefore (fold : Bool) (cs : List Char) (position : Nat) : Nat :=
  (normalize fold (cs.take position)).length

/-- Where the folding of the character at a position stands in the folded text. -/
def foldedAt (fold : Bool) (cs : List Char) (position : Nat) : Span :=
  ⟨foldedBefore fold cs position, foldedBefore fold cs (position + 1)⟩

variable {fold : Bool} {cs : List Char} {position : Nat} {c : Char}

/-- One more character adds as many characters as it folds to. -/
theorem foldedBefore_succ (fold : Bool) (here : cs[position]? = some c) :
    foldedBefore fold cs (position + 1) =
      foldedBefore fold cs position + (normalize fold [c]).length := by
  rw [foldedBefore, List.take_add_one, here, Option.toList_some, normalize_append,
    List.length_append]
  rfl

/-- Later places have as many folded characters before them, or more. -/
theorem foldedBefore_mono {position' : Nat} (le : position ≤ position') :
    foldedBefore fold cs position ≤ foldedBefore fold cs position' := by
  obtain ⟨between, rfl⟩ := Nat.exists_eq_add_of_le le
  rw [foldedBefore, foldedBefore, List.take_add, normalize_append, List.length_append]
  exact Nat.le_add_right _ _

/-- Positions are in the order of what they fold to. -/
theorem lt_of_foldedBefore_lt (fold : Bool) (cs : List Char) {position' : Nat}
    (lt : foldedBefore fold cs position < foldedBefore fold cs position') :
    position < position' := by
  by_contra behind
  exact Nat.not_lt.mpr (foldedBefore_mono (Nat.not_lt.mp behind)) lt

/-- The longer text folds as the shorter one, as far as that one goes. -/
theorem foldedBefore_append (ds : List Char) (inside : position ≤ cs.length) :
    foldedBefore fold (cs ++ ds) position = foldedBefore fold cs position := by
  rw [foldedBefore, List.take_append_of_le_length inside, foldedBefore]

/-- Before the end of a text stand all its folded characters. -/
theorem foldedBefore_length : foldedBefore fold cs cs.length = (normalize fold cs).length := by
  rw [foldedBefore, List.take_length]

/-- The text up to a place folds to the folded text up to where that place is. -/
theorem normalize_take :
    normalize fold (cs.take position) =
      (normalize fold cs).take (foldedBefore fold cs position) := by
  have split : normalize fold cs =
      normalize fold (cs.take position) ++ normalize fold (cs.drop position) := by
    rw [← normalize_append, List.take_append_drop]
  rw [split]
  exact (List.take_left' rfl).symm

/-- A stretch of the text folds to the stretch of the folded text between its ends. -/
theorem normalize_slice {span : Span} (ordered : span.start ≤ span.stop) :
    normalize fold (span.slice cs) =
      Span.slice (normalize fold cs)
        ⟨foldedBefore fold cs span.start, foldedBefore fold cs span.stop⟩ := by
  rw [Span.slice.eq_1 (normalize fold cs), ← normalize_take, Span.take_stop cs ordered,
    normalize_append]
  exact (List.drop_left' rfl).symm

/-! ## Byte offsets -/

/-- The byte offset of a place is the length of the text before it. -/
theorem byteOffset_eq (cs : List Char) (position : Nat) :
    byteOffset cs position = String.utf8Len (cs.take position) := by
  unfold byteOffset
  induction cs.take position with
  | nil => rfl
  | cons c cs ih => rw [List.map_cons, List.foldr_cons, ih, String.utf8Len_cons, Nat.add_comm]

/-- One more character adds as many bytes as it has. -/
theorem byteOffset_succ (here : cs[position]? = some c) :
    byteOffset cs (position + 1) = byteOffset cs position + c.utf8Size := by
  simp [byteOffset_eq, List.take_add_one, here]

/-- What follows does not change the byte offset of a place. -/
theorem byteOffset_append (ds : List Char) (inside : position ≤ cs.length) :
    byteOffset (cs ++ ds) position = byteOffset cs position := by
  rw [byteOffset_eq, byteOffset_eq, List.take_append_of_le_length inside]

/-- Later places have as many bytes before them, or more. -/
theorem byteOffset_mono {position' : Nat} (le : position ≤ position') :
    byteOffset cs position ≤ byteOffset cs position' := by
  rw [byteOffset_eq, byteOffset_eq]
  exact String.utf8Len_le_of_prefix (List.take_prefix_take_left le)

/-- A later position within the text lies at a later byte. -/
theorem byteOffset_lt {position' : Nat} (lt : position < position')
    (inside : position' ≤ cs.length) :
    byteOffset cs position < byteOffset cs position' := by
  have here := List.getElem?_eq_getElem (Nat.lt_of_lt_of_le lt inside)
  calc byteOffset cs position < byteOffset cs (position + 1) := by
        rw [byteOffset_succ here]
        exact Nat.lt_add_of_pos_right (Char.utf8Size_pos _)
    _ ≤ byteOffset cs position' := byteOffset_mono lt

/-! ## Slices by bytes -/

variable {text : String}

/-- No position of a text lies behind its bytes. -/
theorem byteOffset_le_utf8ByteSize (text : String) (position : Nat) :
    byteOffset text.toList position ≤ text.utf8ByteSize := by
  conv_rhs => rw [← String.ofList_toList (s := text), String.utf8ByteSize_ofList]
  rw [byteOffset_eq]
  exact String.utf8Len_le_of_prefix (List.take_prefix _ _)

/-- Byte offsets are boundaries of characters. -/
theorem isValid_byteOffset (text : String) (position : Nat) :
    String.Pos.Raw.IsValid text ⟨byteOffset text.toList position⟩ := by
  rw [String.Pos.Raw.isValid_iff_exists_take_toList]
  exact ⟨position, by rw [byteOffset_eq, String.utf8ByteSize_ofList]⟩

/-- The slice of a text by the bytes of a stretch has the characters of the stretch. -/
theorem extract_toBytes {span : Span} (ordered : span.start ≤ span.stop) :
    String.Pos.Raw.extract text ⟨(span.toBytes text.toList).1⟩ ⟨(span.toBytes text.toList).2⟩ =
      String.ofList (span.slice text.toList) := by
  have split := Span.take_stop text.toList ordered
  have whole : String.ofList
      (text.toList.take span.start ++ span.slice text.toList ++ text.toList.drop span.stop) =
      text := by
    rw [← split, List.take_append_drop, String.ofList_toList]
  have bytes := String.extract_of_valid (text.toList.take span.start) (span.slice text.toList)
    (text.toList.drop span.stop)
  rw [whole, ← String.utf8Len_append, ← split, ← byteOffset_eq, ← byteOffset_eq] at bytes
  exact bytes

end Picklist.Text
