import Mathlib.Data.List.Basic

/-!
# Checked indices

A computation in `Checked` stops at the first index that is out of range, so that one which gives a
result took none. Lists are read and changed at an index by `fetch` and `store` alone.
-/

namespace Reshape

/-- An index that is out of range for the list it is taken in. -/
structure OutOfRange where
  index : Nat
  length : Nat
  le : length ≤ index

/-- A computation that stops at an index out of range. -/
abbrev Checked := Except OutOfRange

section Lists

variable {α β ε : Type}

/-- The element at an index. -/
def fetch (items : List α) (i : Nat) : Checked α :=
  if h : i < items.length then .ok items[i] else .error ⟨i, items.length, Nat.le_of_not_lt h⟩

/-- The list with another element at an index. -/
def store (items : List α) (i : Nat) (a : α) : Checked (List α) :=
  if h : i < items.length then .ok (items.set i a)
  else .error ⟨i, items.length, Nat.le_of_not_lt h⟩

theorem fetch_eq_ok {items : List α} {i : Nat} {a : α} : fetch items i = .ok a ↔
    items[i]? = some a := by
  by_cases h : i < items.length
  · rw [fetch, dif_pos h, List.getElem?_eq_getElem h, Except.ok.injEq, Option.some_inj]
  · rw [fetch, dif_neg h, List.getElem?_eq_none (Nat.le_of_not_lt h)]
    exact iff_of_false (by rintro ⟨⟩) (by rintro ⟨⟩)

theorem store_eq_ok {items : List α} {i : Nat} (h : i < items.length) (a : α) :
    store items i a = .ok (items.set i a) := dif_pos h

/-- A list of computations that give results gives the results. -/
theorem mapM_eq_ok {f : α → Except ε β} {g : α → β} {items : List α}
    (h : ∀ a ∈ items, f a = .ok (g a)) : items.mapM f = .ok (items.map g) := by
  induction items with
  | nil => rfl
  | cons a items ih =>
    rw [List.mapM_cons, h a List.mem_cons_self, ih fun b hb => h b (List.mem_cons_of_mem _ hb)]
    rfl

theorem filterMapM_eq_ok {f : α → Except ε (Option β)} {g : α → Option β} {items : List α}
    (h : ∀ a ∈ items, f a = .ok (g a)) : items.filterMapM f = .ok (items.filterMap g) := by
  induction items with
  | nil => rfl
  | cons a items ih =>
    have hrest := ih fun b hb => h b (List.mem_cons_of_mem _ hb)
    rw [List.filterMapM_cons, h a List.mem_cons_self, hrest]
    cases hg : g a with
    | none => rw [List.filterMap_cons_none hg]; rfl
    | some b => rw [List.filterMap_cons_some hg]; rfl

end Lists

end Reshape
