import Mathlib.Data.List.ModifyLast
import Picklist.Proofs.Lists
import Picklist.Proofs.Select.Sources

/-!
# The byte table of origins

Matches are found as byte ranges of the folded text, and a label is highlighted by byte ranges of
its own. The one leads to the other through a table with one entry for each byte of the folded text.
A character is folded by itself, and each byte of what it folds to gets its byte range for an entry;
where nothing is left, the last entry before goes on over it. The table says of the first and the
last byte of every match where the characters stand that they came from.
-/

set_option autoImplicit false

namespace Picklist.Select

open Text

/-- What is gathered on the way through a label: the number of bytes passed, the folded text, and
for each of its bytes the byte range of the character that it came from. -/
structure OriginTable where
  offset : Nat := 0
  folded : List Char := []
  entries : List (Nat × Nat) := []
  deriving Repr, DecidableEq

namespace OriginTable

/-- Passes one character. -/
def add (table : OriginTable) (c : Char) : OriginTable :=
  let stop := table.offset + c.utf8Size
  let part := stripMarks [c]
  { offset := stop
    folded := table.folded ++ part
    entries :=
      if String.utf8Len part = 0 then table.entries.modifyLast fun entry => (entry.1, stop)
      else table.entries ++ List.replicate (String.utf8Len part) (table.offset, stop) }

/-- The table of a whole text. -/
def ofText (cs : List Char) : OriginTable := cs.foldl add {}

/-- The byte range of the label that a byte range of the folded text came from, or nothing if one of
its ends has no entry. -/
def lookUp? (table : OriginTable) (found : Nat × Nat) : Option (Nat × Nat) := do
  let first ← table.entries[found.1]?
  let last ← table.entries[found.2 - 1]?
  return (first.1, last.2)

/-! ## The table holds the origins -/

/-- The entries for the bytes of one folded character. Only the last goes on over characters that
vanish. -/
def entriesOf (cs : List Char) (o : Origin) : List (Nat × Nat) :=
  List.replicate (o.char.utf8Size - 1) (Span.toBytes cs ⟨o.source.start, o.source.start + 1⟩) ++
    [o.source.toBytes cs]

variable {cs : List Char} {c : Char} {origins : List Origin}

/-- A folded character has as many entries as bytes. -/
theorem length_entriesOf (cs : List Char) (o : Origin) :
    (entriesOf cs o).length = o.char.utf8Size := by
  have filled := Char.utf8Size_pos o.char
  simp only [entriesOf, List.length_append, List.length_replicate, List.length_singleton]
  omega

/-- A folded text has as many entries as bytes. -/
theorem length_flatMap_entriesOf (cs : List Char) (origins : List Origin) :
    (origins.flatMap (entriesOf cs)).length = String.utf8Len (origins.map Origin.char) := by
  induction origins with
  | nil => rfl
  | cons o origins ih =>
    rw [List.flatMap_cons, List.length_append, length_entriesOf, ih, List.map_cons,
      String.utf8Len_cons, Nat.add_comm]

/-- A character behind a stretch does not change where its bytes are. -/
theorem toBytes_concat {span : Span} (ordered : span.start ≤ span.stop)
    (inside : span.stop ≤ cs.length) : span.toBytes (cs ++ [c]) = span.toBytes cs := by
  rw [Span.toBytes, byteOffset_append _ inside, byteOffset_append _ (by omega), Span.toBytes]

/-- A character more changes no entry of the origins before it. -/
theorem flatMap_entriesOf_concat (traced : Origin.Traced cs.length origins) :
    origins.flatMap (entriesOf (cs ++ [c])) = origins.flatMap (entriesOf cs) := by
  apply List.flatMap_congr
  intro o member
  have bounds := traced.inside o member
  rw [entriesOf, toBytes_concat (by dsimp only; omega) (by dsimp only; omega),
    toBytes_concat (by omega) (by omega), entriesOf]

/-- What a character folds to gets as many entries with its byte range as there are bytes. -/
theorem flatMap_entriesOf_new (cs folded : List Char) (position : Nat) :
    (folded.map (⟨·, ⟨position, position + 1⟩⟩)).flatMap (entriesOf cs) =
      List.replicate (String.utf8Len folded) (Span.toBytes cs ⟨position, position + 1⟩) := by
  induction folded with
  | nil => rfl
  | cons d folded ih =>
    have filled := Char.utf8Size_pos d
    rw [List.map_cons, List.flatMap_cons, ih, entriesOf, ← List.replicate_one,
      List.replicate_append_replicate, List.replicate_append_replicate, String.utf8Len_cons]
    congr 1
    dsimp only
    omega

/-- Where a character vanishes, the last origin and the last entry go on over it. -/
theorem flatMap_entriesOf_extendLast (traced : Origin.Traced cs.length origins) :
    (Origin.extendLast (cs.length + 1) origins).flatMap (entriesOf (cs ++ [c])) =
      (origins.flatMap (entriesOf cs)).modifyLast fun entry =>
        (entry.1, byteOffset (cs ++ [c]) (cs.length + 1)) := by
  rcases List.eq_nil_or_concat origins with rfl | ⟨early, o, rfl⟩
  · rfl
  · rw [List.concat_eq_append] at traced ⊢
    obtain ⟨filled, inside⟩ := traced.inside o (List.mem_append_right _ List.mem_cons_self)
    have before : Origin.Traced cs.length early :=
      ⟨fun a member => traced.inside a (List.mem_append_left _ member),
        (List.pairwise_append.mp traced.ascending).1⟩
    have extended : entriesOf (cs ++ [c])
        { o with source := { o.source with stop := cs.length + 1 } } =
        List.replicate (o.char.utf8Size - 1)
            (Span.toBytes cs ⟨o.source.start, o.source.start + 1⟩) ++
          [(byteOffset cs o.source.start, byteOffset (cs ++ [c]) (cs.length + 1))] := by
      have same : Span.toBytes (cs ++ [c]) ⟨o.source.start, o.source.start + 1⟩ =
          Span.toBytes cs ⟨o.source.start, o.source.start + 1⟩ :=
        toBytes_concat (Nat.le_succ _) (Nat.le_trans filled inside)
      rw [entriesOf, same, Span.toBytes.eq_1 (cs ++ [c]),
        byteOffset_append [c] (by dsimp only; omega)]
    rw [Origin.extendLast_concat, List.flatMap_append, List.flatMap_append, List.flatMap_singleton,
      List.flatMap_singleton, flatMap_entriesOf_concat before, extended, entriesOf,
      ← List.append_assoc, ← List.append_assoc, List.modifyLast_concat]
    rfl

/-- Adding a character to the origins adds to the entries what passing it does. -/
theorem flatMap_entriesOf_add (traced : Origin.Traced cs.length origins) :
    (Origin.add origins c cs.length).flatMap (entriesOf (cs ++ [c])) =
      if String.utf8Len (stripMarks [c]) = 0 then
        (origins.flatMap (entriesOf cs)).modifyLast fun entry =>
          (entry.1, byteOffset (cs ++ [c]) (cs.length + 1))
      else
        origins.flatMap (entriesOf cs) ++ List.replicate (String.utf8Len (stripMarks [c]))
          (Span.toBytes (cs ++ [c]) ⟨cs.length, cs.length + 1⟩) := by
  unfold Origin.add
  split
  · rename_i gone
    rw [if_pos (String.utf8Len_eq_zero.mpr gone)]
    exact flatMap_entriesOf_extendLast traced
  · rename_i left
    rw [if_neg (fun gone => left (String.utf8Len_eq_zero.mp gone)), List.flatMap_append,
      flatMap_entriesOf_concat traced, flatMap_entriesOf_new]

/-- The table of a text is its origins, byte by byte. -/
theorem ofText_eq (cs : List Char) :
    ofText cs =
      { offset := byteOffset cs cs.length
        folded := stripMarks cs
        entries := (Origin.ofText cs).flatMap (entriesOf cs) } := by
  induction cs using List.reverseRecOn with
  | nil => rfl
  | append_singleton cs c ih =>
    have start : byteOffset (cs ++ [c]) cs.length = byteOffset cs cs.length :=
      byteOffset_append [c] (Nat.le_refl _)
    have stop : byteOffset (cs ++ [c]) (cs.length + 1) = byteOffset cs cs.length + c.utf8Size := by
      rw [byteOffset_succ List.getElem?_concat_length, start]
    rw [ofText, List.foldl_append, ← ofText, ih, List.foldl_cons, List.foldl_nil, add,
      Origin.ofText_concat, flatMap_entriesOf_add (Origin.traced_ofText cs), List.length_append,
      List.length_singleton, Span.toBytes, start, stop, stripMarks_append]

/-! ## Looking up matches -/

/-- Every entry of a character has the start of its source. -/
theorem fst_of_mem_entriesOf {o : Origin} {entry : Nat × Nat} (member : entry ∈ entriesOf cs o) :
    entry.1 = byteOffset cs o.source.start := by
  rcases List.mem_append.mp member with early | last
  · rw [(List.mem_replicate.mp early).2]
    rfl
  · rw [List.mem_singleton.mp last]
    rfl

variable {place : Nat} {o : Origin}

/-- The entries of a folded character stand where its bytes do. -/
theorem flatMap_entriesOf_split (cs : List Char) (here : origins[place]? = some o) :
    ∃ early late, origins.flatMap (entriesOf cs) = early ++ (entriesOf cs o ++ late) ∧
      early.length = byteOffset (origins.map Origin.char) place := by
  obtain ⟨inside, rfl⟩ := List.getElem?_eq_some_iff.mp here
  refine ⟨(origins.take place).flatMap (entriesOf cs),
    (origins.drop (place + 1)).flatMap (entriesOf cs), ?_, ?_⟩
  · rw [← List.flatMap_cons, ← List.drop_eq_getElem_cons inside, ← List.flatMap_append,
      List.take_append_drop]
  · rw [length_flatMap_entriesOf, byteOffset_eq, List.map_take]

/-- The entry for the first byte of a folded character begins where its source does. -/
theorem exists_entry_atStart (cs : List Char) (here : origins[place]? = some o) :
    ∃ entry, (origins.flatMap (entriesOf cs))[byteOffset (origins.map Origin.char) place]? =
      some entry ∧ entry.1 = byteOffset cs o.source.start := by
  obtain ⟨early, late, split, length⟩ := flatMap_entriesOf_split cs here
  have filled : 0 < (entriesOf cs o).length := by
    rw [length_entriesOf]
    exact Char.utf8Size_pos _
  refine ⟨(entriesOf cs o)[0], ?_, fst_of_mem_entriesOf (List.getElem_mem filled)⟩
  rw [split, ← length, List.getElem?_append_right (Nat.le_refl _), Nat.sub_self,
    List.getElem?_append_left filled, List.getElem?_eq_getElem filled]

/-- The entry for the last byte of a folded character is its source. -/
theorem entry_atStop (cs : List Char) (here : origins[place]? = some o) :
    (origins.flatMap (entriesOf cs))[byteOffset (origins.map Origin.char) (place + 1) - 1]? =
      some (o.source.toBytes cs) := by
  obtain ⟨early, late, split, length⟩ := flatMap_entriesOf_split cs here
  have filled := Char.utf8Size_pos o.char
  have size := length_entriesOf cs o
  have char : (origins.map Origin.char)[place]? = some o.char := by
    rw [List.getElem?_map, here]
    rfl
  have index : byteOffset (origins.map Origin.char) (place + 1) - 1 =
      early.length + (o.char.utf8Size - 1) := by
    rw [byteOffset_succ char, length]
    omega
  rw [split, index, List.getElem?_append_right (Nat.le_add_right _ _), Nat.add_sub_cancel_left,
    List.getElem?_append_left (by omega), entriesOf, List.getElem?_append_right (by simp),
    List.length_replicate, Nat.sub_self, List.getElem?_cons_zero]

/-- Looking up the bytes of a match finds the bytes of its source. -/
theorem lookUp?_toBytes {matched source : Span} (filled : matched.start < matched.stop)
    (found : Origin.sourceSpan? (Origin.ofText cs) matched = some source) :
    (ofText cs).lookUp? (matched.toBytes (stripMarks cs)) = some (source.toBytes cs) := by
  simp only [Origin.sourceSpan?, Option.bind_eq_bind, Option.bind_eq_some_iff] at found
  obtain ⟨first, atStart, last, atStop, joined⟩ := found
  obtain rfl := Option.some.inj joined
  obtain ⟨entry, entryStart, start⟩ := exists_entry_atStart cs atStart
  have entryStop := entry_atStop cs atStop
  rw [Nat.sub_add_cancel (by omega), Origin.map_char_ofText] at entryStop
  rw [Origin.map_char_ofText] at entryStart
  rw [ofText_eq, lookUp?, Span.toBytes]
  dsimp only
  rw [entryStart, entryStop]
  simp [start, Span.toBytes]

end OriginTable

/-! ## The ranges of a label -/

namespace Expression

variable (e : Expression)

/-- The byte ranges of a label that the matches in its normalized text came from, by way of the
table. There is no result if an entry is missing. -/
def rangesByTable? (fold : Bool) (label : String) : Option (List (Nat × Nat)) :=
  if !fold || isAscii label.toList then some (e.matchRanges label)
  else
    let table := OriginTable.ofText label.toList
    (e.matchRanges (String.ofList table.folded)).mapM table.lookUp?

/-- The byte ranges that the table leads to, whatever characters the label holds. -/
def rangesByLoop? (label : String) : Option (List (Nat × Nat)) :=
  let table := OriginTable.ofText label.toList
  (e.matchRanges (String.ofList table.folded)).mapM table.lookUp?

/-- No entry is missing, and the table leads to the sources of the matches. -/
theorem rangesByLoop?_eq (label : String) :
    e.rangesByLoop? label =
      some (((e.spans (stripMarks label.toList)).filterMap
        (Origin.sourceSpan? (Origin.ofText label.toList))).map (·.toBytes label.toList)) := by
  have folded : (OriginTable.ofText label.toList).folded = stripMarks label.toList := by
    rw [OriginTable.ofText_eq]
  unfold rangesByLoop?
  dsimp only
  rw [folded]
  apply mapM_eq_some_iff.mpr
  rw [matchRanges, String.toList_ofList, List.forall₂_map_left_iff, List.forall₂_map_right_iff]
  apply forall₂_filterMap
  intro matched member
  have filled := ((Apart.iff_pairwise.mp (e.spans_apart _)).1 matched member).2.1
  obtain ⟨source, found, -⟩ := e.exists_source member
  exact ⟨source, found, OriginTable.lookUp?_toBytes filled found⟩

/-- The table leads to the highlighted ranges. -/
theorem rangesByTable?_eq (fold : Bool) (label : String) :
    e.rangesByTable? fold label = some (e.labelRanges fold label) := by
  unfold rangesByTable? labelRanges labelSpans
  split
  · rfl
  · dsimp only
    rw [Origin.map_char_ofText]
    exact e.rangesByLoop?_eq label

/-- The highlighted range `shown` of a label points at the source of the range `found` of its
normalized text: it is the byte range of a source of the match at `found`, not empty and between
boundaries of characters, and its slice of the label normalizes to a text with the match in it. -/
structure PointsAt (fold : Bool) (label : String) (found shown : Nat × Nat) : Prop where
  filled : shown.1 < shown.2
  inside : shown.2 ≤ label.utf8ByteSize
  start : String.Pos.Raw.IsValid label ⟨shown.1⟩
  stop : String.Pos.Raw.IsValid label ⟨shown.2⟩
  spelled :
    (String.Pos.Raw.extract (normalizeString fold label) ⟨found.1⟩ ⟨found.2⟩).toList <:+:
      (normalizeString fold (String.Pos.Raw.extract label ⟨shown.1⟩ ⟨shown.2⟩)).toList
  source : ∃ matched source, matched.toBytes (normalizeString fold label).toList = found ∧
    source.toBytes label.toList = shown ∧ IsSource fold label.toList matched source

/-- A stretch that joins its sources points from the bytes of the one to the bytes of the others. -/
theorem pointsAt_of_joins {fold : Bool} {label : String} {matched source : Span}
    (joins : Joins fold label.toList matched source) :
    PointsAt fold label (matched.toBytes (normalizeString fold label).toList)
      (source.toBytes label.toList) := by
  have points := joins.isSource
  refine ⟨byteOffset_lt points.filled points.inside, byteOffset_le_utf8ByteSize _ _,
    isValid_byteOffset _ _, isValid_byteOffset _ _, ?_, matched, source, rfl, rfl, points⟩
  rw [extract_toBytes (Nat.le_of_lt joins.filled), extract_toBytes (Nat.le_of_lt points.filled),
    String.toList_ofList, toList_normalizeString, toList_normalizeString, String.toList_ofList]
  exact points.found

/-- The byte ranges of a label point at the sources of the matches in its normal form. -/
theorem labelRanges_pointsAt (fold : Bool) (label : String) :
    List.Forall₂ (PointsAt fold label) (e.matchRanges (normalizeString fold label))
      (e.labelRanges fold label) := by
  rw [matchRanges, labelRanges, List.forall₂_map_left_iff, List.forall₂_map_right_iff]
  apply List.Forall₂.imp (fun _ _ => pointsAt_of_joins)
  rw [toList_normalizeString]
  exact e.labelSpans_joins fold label.toList

/-- The byte ranges of a label are in ascending order. -/
theorem labelRanges_ascending (fold : Bool) (label : String) :
    (e.labelRanges fold label).Pairwise fun r s => r.1 ≤ s.1 ∧ r.2 ≤ s.2 := by
  rw [labelRanges, List.pairwise_map]
  apply (e.labelSpans_ascending fold label.toList).imp
  intro s t ordered
  exact ⟨byteOffset_mono ordered.1, byteOffset_mono ordered.2⟩

/-- **Highlighted ranges point at the sources of matches.** No byte of a match is without an entry
in the table of origins, and looking up the matches of the normalized label gives its highlighted
ranges, one for each match in turn. Every one points at the source of its match. They begin and end
in ascending order. -/
theorem label_ranges_point_at_sources (fold : Bool) (label : String) :
    e.rangesByTable? fold label = some (e.labelRanges fold label) ∧
      List.Forall₂ (PointsAt fold label) (e.matchRanges (normalizeString fold label))
        (e.labelRanges fold label) ∧
      (e.labelRanges fold label).Pairwise fun r s => r.1 ≤ s.1 ∧ r.2 ≤ s.2 :=
  ⟨e.rangesByTable?_eq fold label, e.labelRanges_pointsAt fold label,
    e.labelRanges_ascending fold label⟩

/-- A letter of a syllable is matched without the mark behind the syllable unless it is the last
one. -/
example : (compile "\u1100" none).labelRanges true "\uAC00\u0301" = [(0, 3)] ∧
    (compile "\u1161" none).labelRanges true "\uAC00\u0301" = [(0, 5)] := by
  decide +kernel

end Expression

end Picklist.Select
