import Picklist.Text.Lines

/-!
# How a text splits into lines

The lines of a text are the one way to cut it at its line feeds, with the carriage return before a
line feed taken as a part of the line's end.
-/

set_option autoImplicit false

namespace Picklist.Text

/-- A text and the lines that it is made of. A line ends with a line feed or with a carriage return
and a line feed; the last one may also end with the text. -/
inductive SplitsInto : List Char → List (List Char) → Prop where
  | empty : SplitsInto [] []
  | last {line : List Char} (nonempty : line ≠ []) (single : '\n' ∉ line) : SplitsInto line [line]
  | feed {line rest : List Char} {others : List (List Char)} (single : '\n' ∉ line)
    (bare : line.getLast? ≠ some '\r') (split : SplitsInto rest others) :
    SplitsInto (line ++ '\n' :: rest) (line :: others)
  | returnFeed {line rest : List Char} {others : List (List Char)} (single : '\n' ∉ line)
    (split : SplitsInto rest others) : SplitsInto (line ++ '\r' :: '\n' :: rest) (line :: others)

variable {line rest : List Char}

/-- A line without a carriage return at its end stays as it is. -/
theorem dropReturn_of_bare (bare : line.getLast? ≠ some '\r') : dropReturn line = line :=
  if_neg bare

/-- One carriage return is dropped. -/
theorem dropReturn_concat (line : List Char) : dropReturn (line ++ ['\r']) = line := by
  simp [dropReturn]

/-- What stands before a line feed is a line, with a carriage return or without. -/
theorem linesFrom_append (single : '\n' ∉ line) (current rest : List Char) :
    linesFrom current (line ++ '\n' :: rest) =
      dropReturn (current.reverse ++ line) :: lines rest := by
  induction line generalizing current with
  | nil => simp [linesFrom, lines]
  | cons c line ih =>
    obtain ⟨other, single⟩ := List.ne_and_not_mem_of_not_mem_cons single
    rw [List.cons_append, linesFrom, if_neg other.symm, ih single, List.reverse_cons,
      List.append_assoc]
    rfl

/-- What has no line feed is one line, unless it is nothing. -/
theorem linesFrom_of_single (single : '\n' ∉ line) (current : List Char)
    (nonempty : current.reverse ++ line ≠ []) :
    linesFrom current line = [current.reverse ++ line] := by
  induction line generalizing current with
  | nil =>
    have left : current ≠ [] := by simpa using nonempty
    simp [linesFrom, left]
  | cons c line ih =>
    obtain ⟨other, single⟩ := List.ne_and_not_mem_of_not_mem_cons single
    rw [linesFrom, if_neg other.symm, ih single _ (by simp), List.reverse_cons, List.append_assoc]
    rfl

/-- Reading line by line splits the text into its lines. -/
theorem splitsInto_linesFrom (current rest : List Char) (single : '\n' ∉ current) :
    SplitsInto (current.reverse ++ rest) (linesFrom current rest) := by
  induction rest generalizing current with
  | nil =>
    unfold linesFrom
    split
    · rename_i empty
      rw [List.isEmpty_iff.mp empty]
      exact .empty
    · rename_i left
      rw [List.append_nil]
      exact .last (by simpa using left) (by simpa using single)
  | cons c rest ih =>
    unfold linesFrom
    split
    · rename_i feed
      subst feed
      have line : '\n' ∉ current.reverse := by simpa using single
      have others : SplitsInto rest (linesFrom [] rest) := ih [] (by simp)
      by_cases returned : current.reverse.getLast? = some '\r'
      · obtain ⟨before, whole⟩ := List.getLast?_eq_some_iff.mp returned
        rw [whole, dropReturn_concat, List.append_assoc]
        rw [whole] at line
        exact .returnFeed (fun inside => line (List.mem_append_left _ inside)) others
      · rw [dropReturn_of_bare returned]
        exact .feed line returned others
    · rename_i other
      have longer := ih (c :: current) (by simpa using ⟨fun same => other same.symm, single⟩)
      rwa [List.reverse_cons, List.append_assoc] at longer

/-- A text is split into lines in one way. -/
theorem SplitsInto.eq_lines {cs : List Char} {others : List (List Char)}
    (split : SplitsInto cs others) : others = lines cs := by
  induction split with
  | empty => rfl
  | last nonempty single => exact (linesFrom_of_single single [] nonempty).symm
  | feed single bare _ ih =>
    rw [lines, linesFrom_append single, List.reverse_nil, List.nil_append,
      dropReturn_of_bare bare, ih]
  | @returnFeed line rest others single _ ih =>
    have whole : line ++ '\r' :: '\n' :: rest = (line ++ ['\r']) ++ '\n' :: rest := by simp
    have unended : '\n' ∉ line ++ ['\r'] := by simpa using single
    rw [whole, lines, linesFrom_append unended, List.reverse_nil, List.nil_append,
      dropReturn_concat, ih]

/-- The lines of a text are the only ones that it splits into. -/
theorem splitsInto_iff {cs : List Char} {others : List (List Char)} :
    SplitsInto cs others ↔ others = lines cs := by
  constructor
  · exact SplitsInto.eq_lines
  · rintro rfl
    exact splitsInto_linesFrom [] cs (by simp)

end Picklist.Text
