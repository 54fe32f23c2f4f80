import Mathlib.Data.List.Basic
import Picklist.Settings.Merge

/-!
# The last word on a setting

Of all entries of all sources, in their order, the last one that mentions a setting decides on its
value. An entry mentions the setting of a group if its key is the path of the setting or leads below
it, or if it is about the whole group and is no table that leaves the setting out.
-/

set_option autoImplicit false

namespace Picklist.Settings

/-! ## Values under keys -/

/-- An entry with another key is passed over. -/
theorem lookup_cons_of_ne {key other : String} (differs : other ≠ key) (v : Value)
    (entries : Entries) :
    List.lookup other ((key, v) :: entries) = entries.lookup other := by
  rw [List.lookup_cons, beq_eq_false_iff_ne.mpr differs]

/-- An entry that was put is found. -/
theorem lookup_put_self (key : String) (v : Value) (entries : Entries) :
    (Entries.put key v entries).lookup key = some v := by
  induction entries with
  | nil => exact List.lookup_cons_self
  | cons entry entries ih =>
    obtain ⟨k, w⟩ := entry
    by_cases here : k = key
    · rw [Entries.put, if_pos here, here, List.lookup_cons_self]
    · rw [Entries.put, if_neg here, lookup_cons_of_ne (Ne.symm here), ih]

/-- Putting an entry leaves the others alone. -/
theorem lookup_put_of_ne {key other : String} (differs : other ≠ key) (v : Value)
    (entries : Entries) : (Entries.put key v entries).lookup other = entries.lookup other := by
  induction entries with
  | nil => exact lookup_cons_of_ne differs v []
  | cons entry entries ih =>
    obtain ⟨k, w⟩ := entry
    by_cases here : k = key
    · subst here
      rw [Entries.put, if_pos rfl, lookup_cons_of_ne differs, lookup_cons_of_ne differs]
    · rw [Entries.put, if_neg here, List.lookup_cons, List.lookup_cons, ih]

/-- A value that is no table takes the place of what is there. -/
def IsPlain (v : Value) : Prop := ∀ entries, v ≠ .table entries

/-- A plain value takes the place of what was there. -/
theorem assign_plain {v : Value} (plain : IsPlain v) (key : String) (target : Value) :
    assign key target v = .table (Entries.put key v target.entries) := by
  cases v with
  | table entries => exact absurd rfl (plain entries)
  | _ => rfl

/-- A value under one key leaves the others as they are. -/
theorem lookup_assign_of_ne {key other : String} (differs : other ≠ key) (target v : Value) :
    (assign key target v).entries.lookup other = target.entries.lookup other := by
  cases v <;> exact lookup_put_of_ne differs _ _

/-- Merging entries leaves alone what none of them names. -/
theorem lookup_assignAll_of_notMem {key : String} {entries : Entries}
    (absent : key ∉ entries.map Prod.fst) (target : Value) :
    (assignAll target entries).entries.lookup key = target.entries.lookup key := by
  induction entries generalizing target with
  | nil => rfl
  | cons entry entries ih =>
    obtain ⟨k, v⟩ := entry
    rw [List.map_cons, List.mem_cons, not_or] at absent
    rw [assignAll, ih absent.2, lookup_assign_of_ne absent.1]

/-- Of the values under one key the last one stays. -/
theorem lookup_assignAll_of_last {key : String} {v : Value} {before after : Entries}
    (plain : IsPlain v) (last : key ∉ after.map Prod.fst) (target : Value) :
    (assignAll target (before ++ (key, v) :: after)).entries.lookup key = some v := by
  induction before generalizing target with
  | nil =>
    rw [List.nil_append, assignAll, lookup_assignAll_of_notMem last, assign_plain plain]
    exact lookup_put_self key v _
  | cons entry before ih =>
    rw [List.cons_append, assignAll]
    exact ih _

/-! ## Settings of groups -/

/-- The value of a setting of a group. -/
def settingAt? (target : Value) (group key : String) : Option Value :=
  (target.entries.lookup group).bind fun v => v.entries.lookup key

/-- The entry says something about the setting. -/
def Mentions (group key : String) (entry : String × Value) : Prop :=
  [group, key] <+: keyPath entry.1 ∨
    keyPath entry.1 = [group] ∧ ∀ entries, entry.2 = .table entries → key ∈ entries.map Prod.fst

/-- The entry says that the setting has the value. -/
def Gives (group key : String) (v : Value) (entry : String × Value) : Prop :=
  keyPath entry.1 = [group, key] ∧ entry.2 = v ∨
    keyPath entry.1 = [group] ∧ ∃ before after,
      entry.2 = .table (before ++ (key, v) :: after) ∧ key ∉ after.map Prod.fst

/-- Merges one entry. -/
def mergeEntry (target : Value) (entry : String × Value) : Value :=
  assignAt target entry.2 (keyPath entry.1)

/-- Every key has a path. -/
theorem keyPath_ne_nil (key : String) : keyPath key ≠ [] := by
  unfold keyPath
  dsimp only
  split
  · rw [Ne, List.map_eq_nil_iff]
    exact List.splitOn_ne_nil _ _
  · exact List.cons_ne_nil _ _

/-- A path leads into the value under its first key. -/
theorem lookup_assignAt_cons (target v : Value) (key next : String) (rest : List String) :
    (assignAt target v (key :: next :: rest)).entries.lookup key =
      some (assignAt ((target.entries.lookup key).getD .nothing) v (next :: rest)) := by
  rw [assignAt.eq_def]
  exact lookup_put_self _ _ _

/-- Assigning along a path leaves the tables beside it alone. -/
theorem lookup_assignAt_of_ne {key other : String} (differs : other ≠ key) (target v : Value)
    (rest : List String) :
    (assignAt target v (key :: rest)).entries.lookup other = target.entries.lookup other := by
  rw [assignAt.eq_def]
  cases rest with
  | nil => exact lookup_assign_of_ne differs target v
  | cons next rest => exact lookup_put_of_ne differs _ _

variable {group key : String}

/-- What a setting is depends on its table alone. -/
theorem settingAt?_of_lookup_eq {target changed : Value}
    (same : changed.entries.lookup group = target.entries.lookup group) :
    settingAt? changed group key = settingAt? target group key := by
  rw [settingAt?, settingAt?, same]

/-- An entry about the whole group sets what its table says. -/
theorem settingAt?_assign_table (target : Value) (entries : Entries) :
    settingAt? (assign group target (.table entries)) group key =
      (assignAll ((target.entries.lookup group).getD (.table [])) entries).entries.lookup key := by
  rw [assign, settingAt?]
  dsimp only [Value.entries]
  rw [lookup_put_self, Option.bind_some]

/-- A setting is looked up in its table, or in none. -/
theorem settingAt?_eq_lookup_getD (target : Value) (fallback : Value)
    (empty : fallback.entries = []) :
    settingAt? target group key =
      ((target.entries.lookup group).getD fallback).entries.lookup key := by
  rw [settingAt?]
  cases target.entries.lookup group with
  | none => simp [empty]
  | some v => rfl

/-- An entry that does not mention the setting leaves it as it is. -/
theorem settingAt?_mergeEntry_of_silent {entry : String × Value}
    (silent : ¬ Mentions group key entry) (target : Value) :
    settingAt? (mergeEntry target entry) group key = settingAt? target group key := by
  obtain ⟨k, v⟩ := entry
  obtain ⟨noPath, noGroup⟩ := not_or.mp silent
  rw [mergeEntry]
  dsimp only at *
  match path : keyPath k with
  | [] => exact absurd path (keyPath_ne_nil k)
  | [first] =>
    by_cases same : group = first
    · subst same
      -- The entry is a table without the setting.
      have leftOut : ∃ entries, v = .table entries ∧ key ∉ entries.map Prod.fst := by
        simpa [path] using noGroup
      obtain ⟨entries, rfl, absent⟩ := leftOut
      rw [assignAt, settingAt?_assign_table, lookup_assignAll_of_notMem absent,
        ← settingAt?_eq_lookup_getD target (.table []) rfl]
    · exact settingAt?_of_lookup_eq (lookup_assignAt_of_ne same target v [])
  | first :: second :: rest =>
    by_cases same : group = first
    · subst same
      have differs : key ≠ second := by
        rintro rfl
        rw [path] at noPath
        exact noPath ⟨rest, rfl⟩
      rw [settingAt?, lookup_assignAt_cons, Option.bind_some,
        lookup_assignAt_of_ne differs, ← settingAt?_eq_lookup_getD target .nothing rfl]
    · exact settingAt?_of_lookup_eq (lookup_assignAt_of_ne same target v (second :: rest))

/-- An entry that gives the setting a value sets it, whatever is there. -/
theorem settingAt?_mergeEntry_of_gives {v : Value} (plain : IsPlain v) {entry : String × Value}
    (gives : Gives group key v entry) (target : Value) :
    settingAt? (mergeEntry target entry) group key = some v := by
  rcases gives with ⟨path, rfl⟩ | ⟨path, before, after, table, last⟩
  · rw [mergeEntry, path, settingAt?, lookup_assignAt_cons, Option.bind_some, assignAt,
      assign_plain plain]
    exact lookup_put_self key _ _
  · rw [mergeEntry, path, table, assignAt, settingAt?_assign_table,
      lookup_assignAll_of_last plain last]

/-! ## Sources -/

/-- A source is merged entry by entry. -/
theorem mergeSource_eq_foldl (target : Value) (source : Entries) :
    mergeSource target source = source.foldl mergeEntry target := rfl

/-- A source that does not mention a setting leaves it alone. -/
theorem settingAt?_mergeSource_of_silent {source : Entries}
    (silent : ∀ entry ∈ source, ¬ Mentions group key entry) (target : Value) :
    settingAt? (mergeSource target source) group key = settingAt? target group key := by
  rw [mergeSource_eq_foldl]
  induction source generalizing target with
  | nil => rfl
  | cons entry source ih =>
    rw [List.foldl_cons, ih fun later member => silent later (List.mem_cons_of_mem entry member),
      settingAt?_mergeEntry_of_silent (silent entry List.mem_cons_self)]

/-- The last entry that mentions the setting decides on it. -/
theorem settingAt?_mergeSource_of_last {v : Value} (plain : IsPlain v)
    {before after : Entries} {entry : String × Value} (gives : Gives group key v entry)
    (silent : ∀ later ∈ after, ¬ Mentions group key later) (target : Value) :
    settingAt? (mergeSource target (before ++ entry :: after)) group key = some v := by
  rw [mergeSource_eq_foldl, List.foldl_append, List.foldl_cons, ← mergeSource_eq_foldl _ after,
    settingAt?_mergeSource_of_silent silent, settingAt?_mergeEntry_of_gives plain gives]

/-- Merging sources one by one merges all of their entries in order. -/
theorem foldl_mergeSource_eq (sources : List Entries) (target : Value) :
    sources.foldl mergeSource target = mergeSource target sources.flatten := by
  induction sources generalizing target with
  | nil => rfl
  | cons source sources ih =>
    rw [List.foldl_cons, ih, List.flatten_cons]
    simp only [mergeSource_eq_foldl, List.foldl_append]

end Picklist.Settings
