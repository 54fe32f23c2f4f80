import Picklist.Proofs.Select.Labels
import Picklist.Proofs.Select.Stroke
import Picklist.View.SelectView

/-!
# How rows read

A label is highlighted by cutting it at its matches. What is cut holds every character of the label
in its order, and reads as the label if and only if the matches do not overlap. They never do where
every character folds to one at the most. The letters of a Hangul syllable share one stretch of the
label, so two matches in one syllable write it twice.
-/

set_option autoImplicit false

namespace Picklist.View

open Terminal Text

/-! ## The text of a line -/

/-- The characters of a line, piece after piece. -/
def lineChars (line : StyledLine) : List Char :=
  line.flatMap (·.text.toList)

/-- The characters of two lines side by side are those of the one and then those of the other. -/
theorem lineChars_append (line line' : StyledLine) :
    lineChars (line ++ line') = lineChars line ++ lineChars line' :=
  List.flatMap_append

/-- The plain text of a line holds its characters. -/
theorem plainText_eq (line : StyledLine) : line.plainText = String.ofList (lineChars line) := by
  induction line with
  | nil => rfl
  | cons segment line ih =>
    calc StyledLine.plainText (segment :: line)
      _ = segment.text ++ StyledLine.plainText line := String.join_cons
      _ = String.ofList (segment.text.toList ++ lineChars line) := by
        rw [ih, String.ofList_append, String.ofList_toList]

/-! ## Cutting a label -/

section Cutting

variable {label : List Char} {style : Style} {done : Nat} {spans : List Span}

/-- A span that ends where it starts, or before, is empty. -/
theorem slice_of_le {span : Span} (behind : span.stop ≤ span.start) : span.slice label = [] := by
  rw [Span.slice, List.drop_eq_nil_iff, List.length_take]
  omega

/-- A span within the label has as many characters as it is long. -/
theorem length_slice {span : Span} (inside : span.stop ≤ label.length) :
    (span.slice label).length = span.stop - span.start := by
  rw [Span.slice, List.length_drop, List.length_take, Nat.min_eq_left inside]

/-- A stretch and what follows it hold what follows the position where the stretch starts. -/
theorem drop_sublist_slice (span : Span) :
    (label.drop span.start).Sublist (span.slice label ++ label.drop span.stop) := by
  have split : label.drop span.start = span.slice label ++
      (label.drop span.stop).drop (span.start - (label.take span.stop).length) := by
    rw [Span.slice, ← List.drop_append, List.take_append_drop]
  rw [split]
  exact (List.Sublist.refl _).append (List.drop_sublist _ _)

/-- Where no span is left, the rest of the label is shown as it is. -/
theorem lineChars_cutLabel_nil :
    lineChars (cutLabel label style done []) = label.drop done := by
  unfold cutLabel lineChars
  split
  · simp
  · rename_i finished
    rw [List.flatMap_nil, eq_comm, List.drop_eq_nil_iff]
    omega

/-- The pieces of a label are what lies between two stretches, and the stretches. -/
theorem lineChars_cutLabel_cons (span : Span) :
    lineChars (cutLabel label style done (span :: spans)) =
      Span.slice label ⟨done, span.start⟩ ++ (span.slice label ++
        lineChars (cutLabel label style span.stop spans)) := by
  unfold lineChars
  rw [cutLabel]
  split
  · simp
  · rename_i none
    have between : Span.slice label ⟨done, span.start⟩ = [] := slice_of_le (Nat.le_of_not_lt none)
    simp [between]

/-- Cutting drops no character and changes no order. -/
theorem drop_sublist_cutLabel :
    (label.drop done).Sublist (lineChars (cutLabel label style done spans)) := by
  induction spans generalizing done with
  | nil => simp [lineChars_cutLabel_nil]
  | cons span spans ih =>
    rw [lineChars_cutLabel_cons]
    apply (drop_sublist_slice ⟨done, span.start⟩).trans
    exact (List.Sublist.refl _).append ((drop_sublist_slice span).trans (.append (.refl _) ih))

/-- Cutting a label loses none of its characters. -/
theorem sublist_cutLabel : label.Sublist (lineChars (cutLabel label style 0 spans)) := by
  have kept : (label.drop 0).Sublist (lineChars (cutLabel label style 0 spans)) :=
    drop_sublist_cutLabel
  rwa [List.drop_zero] at kept

/-- Cutting repeats no character if and only if the stretches stand apart. -/
theorem length_cutLabel_iff
    (bounds : ∀ span ∈ spans, span.start < span.stop ∧ span.stop ≤ label.length) :
    (lineChars (cutLabel label style done spans)).length = label.length - done ↔
      Apart label.length done spans := by
  induction spans generalizing done with
  | nil => simp [lineChars_cutLabel_nil, Apart]
  | cons span spans ih =>
    obtain ⟨⟨filled, inside⟩, others⟩ := List.forall_mem_cons.mp bounds
    have between : (Span.slice label ⟨done, span.start⟩).length = span.start - done :=
      length_slice (by dsimp only; omega)
    have behind : label.length - span.stop ≤
        (lineChars (cutLabel label style span.stop spans)).length := by
      rw [← List.length_drop]
      exact drop_sublist_cutLabel.length_le
    rw [lineChars_cutLabel_cons, List.length_append, List.length_append, between,
      length_slice inside, Apart, ← ih others]
    -- a stretch that starts before done repeats characters, and nothing behind it is shorter
    omega

/-- What is cut reads as the label if and only if the stretches do not overlap. -/
theorem cutLabel_eq_iff
    (bounds : ∀ span ∈ spans, span.start < span.stop ∧ span.stop ≤ label.length) :
    lineChars (cutLabel label style 0 spans) = label ↔
      spans.Pairwise fun s t => s.stop ≤ t.start := by
  calc lineChars (cutLabel label style 0 spans) = label
    _ ↔ (lineChars (cutLabel label style 0 spans)).length = label.length :=
      ⟨congrArg List.length, fun same => (sublist_cutLabel.eq_of_length same.symm).symm⟩
    _ ↔ Apart label.length 0 spans := length_cutLabel_iff bounds
    _ ↔ spans.Pairwise fun s t => s.stop ≤ t.start := by
      rw [Apart.iff_pairwise]
      simpa using fun _ => bounds

end Cutting

/-! ## The rows of a list -/

/-- What stands in front of a label. -/
def markText (s : Select.Snapshot) (choice : Choice) : String :=
  if s.multiple then if s.isSelected choice then "[x] " else "[ ] " else ""

/-- Whether the highlighted stretches of a label do not overlap. -/
def CleanCut (s : Select.Snapshot) (choice : Choice) : Prop :=
  (s.expression.labelSpans s.ignoreDiacritics choice.label.toList).Pairwise
    fun span span' => span.stop ≤ span'.start

variable (s : Select.Snapshot) (theme : Theme) (choice : Choice)

/-- The rows of an open list are those of the filtered options. -/
theorem rows_of_open (isOpen : s.isOpen = true) :
    (selectView s theme).rows = s.filtered.map (choiceRow s theme) :=
  if_pos isOpen

/-- A row is the mark, and the pieces of the label behind it. -/
theorem plainText_choiceRow :
    (choiceRow s theme choice).plainText =
      markText s choice ++ String.ofList (lineChars (cutLabel choice.label.toList theme.highlight 0
        (s.expression.labelSpans s.ignoreDiacritics choice.label.toList))) := by
  rw [plainText_eq, choiceRow, lineChars_append, String.ofList_append]
  congr 1
  unfold markText checkMark
  split
  · split <;> simp [lineChars]
  · rfl

/-- No character of a label is missing from its row, and they are in order. -/
theorem exists_cut : ∃ cut : String,
    (choiceRow s theme choice).plainText = markText s choice ++ cut ∧
      choice.label.toList.Sublist cut.toList := by
  refine ⟨_, plainText_choiceRow s theme choice, ?_⟩
  rw [String.toList_ofList]
  exact sublist_cutLabel

/-- A row reads as its label if and only if the highlighted stretches do not overlap. -/
theorem plainText_choiceRow_iff :
    (choiceRow s theme choice).plainText = markText s choice ++ choice.label ↔
      CleanCut s choice := by
  rw [plainText_choiceRow, String.append_right_inj, ← String.toList_inj, String.toList_ofList]
  exact cutLabel_eq_iff fun span member => s.expression.labelSpans_inside member

/-- The highlighted stretches do not overlap if marks count, or if no character of the label unfolds
to more than one. -/
theorem cleanCut_of_single (single : s.ignoreDiacritics = false ∨
    ∀ c ∈ choice.label.toList, (stripMarks [c]).length ≤ 1) : CleanCut s choice :=
  s.expression.labelSpans_pairwise single

/-- **Highlighting repeats no text unless highlighted stretches overlap.** After any actions of
caller and worker on a new select list, the open list has one row for every listed choice, in order.
It has a check mark exactly where several choices can be selected, and behind it the label, of which
no character is missing or out of order. It reads as the label if and only if no two highlighted
stretches overlap, as is the case without folding, and for labels without a character that folds to
several. -/
theorem rows_read_as_labels (config : Select.Config) (candidates : List Choice)
    (actions : List Select.Action) (theme : Theme) :
    let s := (Select.Selector.ofChoices config candidates).live actions
    let view := selectView s.snapshot theme
    s.isOpen = true →
      view.rows.length = s.filtered.length ∧
        ∀ (index : Nat) (choice : Choice), s.filtered[index]? = some choice →
          ∃ row, view.rows[index]? = some row ∧
            (∃ cut : String, row.plainText = markText s.snapshot choice ++ cut ∧
              choice.label.toList.Sublist cut.toList) ∧
            (row.plainText = markText s.snapshot choice ++ choice.label ↔
              CleanCut s.snapshot choice) ∧
            (config.ignoreDiacritics = false ∨
                (∀ c ∈ choice.label.toList, (stripMarks [c]).length ≤ 1) →
              row.plainText = markText s.snapshot choice ++ choice.label) := by
  intro s view isOpen
  have rows : view.rows = s.filtered.map (choiceRow s.snapshot theme) :=
    rows_of_open s.snapshot theme isOpen
  have settings : s.config = config :=
    (Select.Selector.live_config _ actions).trans (Select.Selector.refilter_config _)
  refine ⟨by rw [rows, List.length_map], ?_⟩
  intro index choice listed
  refine ⟨choiceRow s.snapshot theme choice, ?_, exists_cut _ _ _, plainText_choiceRow_iff _ _ _,
    fun single => ?_⟩
  · rw [rows, List.getElem?_map, listed, Option.map_some]
  · rw [← settings] at single
    exact (plainText_choiceRow_iff _ _ _).mpr (cleanCut_of_single s.snapshot choice single)

/-- An accented label is found by a query without accents. -/
theorem rows_read_as_labels_accented :
    let s := (Select.Selector.ofChoices { multiple := true, ignoreDiacritics := true }
      [.ofLabel "Pear", .ofLabel "Crème"]).live [.step (.operation (.setQuery "creme" 0))]
    (selectView s.snapshot default).rows.length = 1 ∧
      ∃ row, (selectView s.snapshot default).rows[0]? = some row ∧ row.plainText = "[ ] Crème" := by
  intro s
  obtain ⟨isOpen, listed, mark⟩ : s.isOpen = true ∧ s.filtered = [.ofLabel "Crème"] ∧
      markText s.snapshot (.ofLabel "Crème") = "[ ] " := by decide +kernel
  obtain ⟨count, rows⟩ := rows_read_as_labels { multiple := true, ignoreDiacritics := true }
    [.ofLabel "Pear", .ofLabel "Crème"] [.step (.operation (.setQuery "creme" 0))] default isOpen
  obtain ⟨row, shown, -, -, reads⟩ := rows 0 (.ofLabel "Crème") (by rw [listed]; rfl)
  have each : ("Crème".toList.all fun c => (stripMarks [c]).length ≤ 1) = true := by decide +kernel
  have single (c : Char) (member : c ∈ "Crème".toList) : (stripMarks [c]).length ≤ 1 :=
    of_decide_eq_true (List.all_eq_true.mp each c member)
  refine ⟨count.trans (by rw [listed]; rfl), row, shown, ?_⟩
  rw [reads (.inr single), mark]
  rfl

/-- The two matches share the second syllable, which is written twice. -/
theorem shared_syllable_is_repeated :
    let s := (Select.Selector.ofChoices { ignoreDiacritics := true } [.ofLabel "가가가"]).live
      [.step (.operation (.setQuery "ᅡᄀ" 0))]
    s.isOpen = true ∧ s.filtered = [.ofLabel "가가가"] ∧
      (selectView s.snapshot default).rowTexts = ["가가가가"] := by
  decide +kernel

end Picklist.View
