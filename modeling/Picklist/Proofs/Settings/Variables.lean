import Mathlib.Data.String.Basic
import Picklist.Proofs.Settings.Guessing
import Picklist.Proofs.Settings.LastWord

/-!
# Settings from variables

The variables of an environment are merged in alphabetical order of their keys. So a variable for a
whole group of settings comes before the variables for its settings, and a variable for a setting
has the last word on it unless another one stands for the same setting or for something below it.
-/

set_option autoImplicit false

namespace Picklist.Settings

/-! ## Paths -/

/-- A key is written with dots between the keys of its path. -/
theorem toList_eq_intercalate_keyPath (key : String) :
    key.toList = ['.'].intercalate ((keyPath key).map String.toList) := by
  unfold keyPath
  dsimp only
  split
  · have same : (key.toList.splitOn '.').map (String.toList ∘ String.ofList) =
        key.toList.splitOn '.' := List.map_id'' (fun cs => String.toList_ofList) _
    rw [List.map_map, same, List.intercalate_splitOn]
  · simp

/-! ## Values of variables -/

/-- A variable holds no table. -/
theorem isPlain_guessValue (text : String) : IsPlain (guessValue text) := by
  intro entries
  unfold guessValue
  split
  · simp
  · simp
  · split
    · simp
    · split <;> simp

/-- The entries of the environment are those of variables that name a key. -/
theorem mem_ofVariables {environment : List (String × String)} {entry : String × Value} :
    entry ∈ ofVariables environment ↔ ∃ name text, (name, text) ∈ environment ∧
      variableKey? name = some entry.1 ∧ guessValue text = entry.2 := by
  obtain ⟨key, v⟩ := entry
  rw [ofVariables, List.mem_mergeSort, List.mem_filterMap]
  simp [Option.map_eq_some_iff]

/-- The settings of an environment are in alphabetical order. -/
theorem pairwise_ofVariables (environment : List (String × String)) :
    (ofVariables environment).Pairwise fun a b => a.1 ≤ b.1 := by
  have sorted := @List.pairwise_mergeSort _ (fun a b : String × Value => decide (a.1 ≤ b.1))
    (fun a b c first second => by
      rw [decide_eq_true_eq] at *
      exact le_trans first second)
    (fun a b => by
      rw [Bool.or_eq_true, decide_eq_true_eq, decide_eq_true_eq]
      exact le_total a.1 b.1)
  exact (sorted _).imp of_decide_eq_true

/-- A group comes before its settings. -/
theorem group_lt_of_keyPath {group key path : String} (below : keyPath path = [group, key]) :
    group < path := by
  have chars : path.toList = group.toList ++ '.' :: key.toList := by
    rw [toList_eq_intercalate_keyPath path, below]
    simp [List.intercalate]
  refine lt_of_le_of_ne (String.le_iff_toList_le.mpr ?_) ?_
  · rw [chars]
    exact not_lt.mp (List.IsPrefix.le (List.prefix_append group.toList ('.' :: key.toList)))
  · rintro rfl
    have longer := congrArg List.length chars
    rw [List.length_append, List.length_cons] at longer
    omega

/-! ## The last variable -/

variable {group key path : String}

/-- A list splits where a key stands for the last time. -/
theorem exists_last {entries : Entries} {v : Value} (there : (path, v) ∈ entries) :
    ∃ before w after, entries = before ++ (path, w) :: after ∧ ∀ later ∈ after, later.1 ≠ path := by
  induction entries generalizing v with
  | nil => cases there
  | cons entry entries ih =>
    by_cases again : ∃ w, (path, w) ∈ entries
    · obtain ⟨w, member⟩ := again
      obtain ⟨before, u, after, rfl, last⟩ := ih member
      exact ⟨entry :: before, u, after, rfl, last⟩
    · rcases List.mem_cons.mp there with rfl | member
      · refine ⟨[], v, entries, rfl, ?_⟩
        rintro ⟨k, w⟩ member rfl
        exact again ⟨w, member⟩
      · exact absurd ⟨v, member⟩ again

/-- A variable has the last word on its setting where no other one stands for the setting or for
something below it. -/
theorem last_variable {environment : List (String × String)} {name text : String}
    (there : (name, text) ∈ environment) (stands : variableKey? name = some path)
    (below : keyPath path = [group, key])
    (only : ∀ entry ∈ environment, ∀ other, variableKey? entry.1 = some other →
      [group, key] <+: keyPath other → entry = (name, text)) :
    ∃ before after, ofVariables environment = before ++ (path, guessValue text) :: after ∧
      ∀ later ∈ after, ¬ Mentions group key later := by
  have settled : (path, guessValue text) ∈ ofVariables environment :=
    mem_ofVariables.mpr ⟨name, text, there, stands, rfl⟩
  obtain ⟨before, v, after, split, last⟩ := exists_last settled
  have value : v = guessValue text := by
    obtain ⟨name', text', member, stands', rfl⟩ : ∃ name' text', (name', text') ∈ environment ∧
        variableKey? name' = some path ∧ guessValue text' = v :=
      mem_ofVariables.mp (split ▸ List.mem_append_right before List.mem_cons_self)
    rw [(Prod.mk.inj (only _ member path stands' (below ▸ List.prefix_rfl))).2]
  subst value
  refine ⟨before, after, split, ?_⟩
  rintro ⟨other, w⟩ member mentions
  have inside : (other, w) ∈ ofVariables environment :=
    split ▸ List.mem_append_right before (List.mem_cons_of_mem _ member)
  obtain ⟨name', text', entry, stands', -⟩ := mem_ofVariables.mp inside
  rcases mentions with leads | ⟨whole, -⟩
  · obtain ⟨rfl, -⟩ := Prod.mk.inj (only _ entry other stands' leads)
    exact last _ member (Option.some.inj (stands'.symm.trans stands))
  · -- A variable for the whole group comes before the one for the setting.
    have sorted := pairwise_ofVariables environment
    rw [split, List.pairwise_append] at sorted
    have behind : path ≤ other := (List.pairwise_cons.mp sorted.2.1).1 _ member
    have first : group < path := group_lt_of_keyPath below
    have same : other = group := by
      rw [← String.toList_inj, toList_eq_intercalate_keyPath other, whole]
      simp
    rw [← same] at first
    exact absurd behind (not_le_of_gt first)

end Picklist.Settings
