/-!
# Stable sorting by a three-way comparison

`stableSort` puts items into ascending order one at a time: each goes behind every item it does not
come before, so items that tie keep the order they arrived in. The items placed so far are held
last first, because that is the end at which the next one looks for its place.

Sorting loses and adds nothing (`stableSort_perm`), whatever the comparison.
-/

namespace Reshape

variable {α : Type}

/-- Puts `x` in front of the first item it does not come before. -/
def insertDescending (compare : α → α → Ordering) (x : α) : List α → List α
  | [] => [x]
  | y :: ys =>
    if compare x y == .lt then y :: insertDescending compare x ys else x :: y :: ys

/-- The items in ascending order, ties in their old order. -/
def stableSort (compare : α → α → Ordering) (items : List α) : List α :=
  (items.foldl (fun placed x => insertDescending compare x placed) []).reverse

theorem insertDescending_perm (compare : α → α → Ordering) (x : α) (placed : List α) :
    (insertDescending compare x placed).Perm (x :: placed) := by
  induction placed with
  | nil => exact .refl _
  | cons y ys ih =>
    rw [insertDescending]
    split
    · exact (ih.cons y).trans (.swap x y ys)
    · exact .refl _

/-- The placed items and those still to come, put together, keep the same members. -/
theorem foldl_insertDescending_perm (compare : α → α → Ordering) (items placed : List α) :
    (items.foldl (fun placed x => insertDescending compare x placed) placed).Perm
      (items ++ placed) := by
  induction items generalizing placed with
  | nil => exact .refl _
  | cons x xs ih =>
    have step := ((insertDescending_perm compare x placed).append_left xs)
    exact (ih _).trans (step.trans List.perm_middle)

theorem stableSort_perm (compare : α → α → Ordering) (items : List α) :
    (stableSort compare items).Perm items := by
  have placed := foldl_insertDescending_perm compare items []
  rw [List.append_nil] at placed
  exact (List.reverse_perm _).trans placed

end Reshape
