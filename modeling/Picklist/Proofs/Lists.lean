import Mathlib.Data.List.Basic

/-!
# Entries and their places

How a list with one more entry at its end splits, and what is read from a list at given places.
-/

set_option autoImplicit false

namespace Picklist

variable {β γ : Type}

/-- A list with one more entry splits before that entry, or as the list without it does. -/
theorem split_concat {entries earlier later : List β} {a b : β}
    (split : entries ++ [a] = earlier ++ b :: later) :
    (earlier = entries ∧ b = a ∧ later = []) ∨
      ∃ rest, entries = earlier ++ b :: rest ∧ later = rest ++ [a] := by
  rcases List.eq_nil_or_concat later with rfl | ⟨rest, c, rfl⟩
  · obtain ⟨rfl, same⟩ := List.append_inj' split rfl
    exact .inl ⟨rfl, (List.head_eq_of_cons_eq same).symm, rfl⟩
  · rw [List.concat_eq_append, ← List.cons_append, ← List.append_assoc] at split
    obtain ⟨rfl, same⟩ := List.append_inj' split rfl
    rw [List.concat_eq_append, ← same]
    exact .inr ⟨rest, rfl, rfl⟩

/-- A list is what stands before an entry, the entry, and what stands behind it. -/
theorem eq_take_append_cons_drop {entries : List β} {place : Nat} {b : β}
    (there : entries[place]? = some b) :
    entries = entries.take place ++ b :: entries.drop (place + 1) := by
  obtain ⟨bound, same⟩ := List.getElem?_eq_some_iff.mp there
  rw [← same, ← List.drop_eq_getElem_cons bound, List.take_append_drop]

/-- Reading a list at all of its places gives its entries. -/
theorem map_getElem?_range (entries : List β) :
    (List.range entries.length).map (entries[·]?) = entries.map some := by
  apply List.ext_getElem
  · simp
  · intro place _ inside
    have inside : place < entries.length := by simpa using inside
    simp [inside]

/-- What is read from a list at the places of an order stands in that order. -/
theorem getElem?_filterMap_getElem? {entries : List β} {order : List Nat}
    (inside : ∀ index ∈ order, index < entries.length) (f : Nat → β → γ) (place : Nat) :
    (order.filterMap fun index => entries[index]?.map (f index))[place]? =
      order[place]?.bind fun index => entries[index]?.map (f index) := by
  let read (index : Nat) : Option γ := entries[index]?.map (f index)
  show (order.filterMap read)[place]? = order[place]?.bind read
  induction order generalizing place with
  | nil => rfl
  | cons index order ih =>
    obtain ⟨first, rest⟩ := List.forall_mem_cons.mp inside
    have here : read index = some (f index entries[index]) :=
      congrArg (Option.map (f index)) (List.getElem?_eq_getElem first)
    rw [List.filterMap_cons_some here]
    cases place with
    | zero => exact here.symm
    | succ place => exact ih rest place

/-- A traversal that finds an entry for each one. -/
theorem mapM_eq_some_iff {f : β → Option γ} {entries : List β} {found : List γ} :
    entries.mapM f = some found ↔ List.Forall₂ (fun b c => f b = some c) entries found := by
  constructor
  · intro all
    induction entries generalizing found with
    | nil =>
      obtain rfl := Option.some.inj all
      exact .nil
    | cons b entries ih =>
      rw [List.mapM_cons] at all
      obtain ⟨c, here, rest⟩ := Option.bind_eq_some_iff.mp all
      obtain ⟨others, later, same⟩ := Option.bind_eq_some_iff.mp rest
      obtain rfl := Option.some.inj same
      exact .cons here (ih later)
  · intro each
    induction each with
    | nil => rfl
    | cons here _ ih =>
      rw [List.mapM_cons, here, ih]
      rfl

end Picklist
