import Reshape.Node.Ranking
import Reshape.Proofs.Binary64.Rounding
import Reshape.Proofs.Sorting

/-!
# How far sorting is an order

Two integers are compared as integers and an integer with a binary64 number as binary64 numbers.
The finer comparison refines the coarser one, which orders all values, so a chain of comparisons
can only fail to carry over where a binary64 number stands between two integers that both round to
it (`Conflict`). Sorting by any keys orders exactly the classes of rows without such a triple in a
field.
-/

namespace Reshape

open Binary64

/-! ## Comparing two values -/

theorem compareForSort_swap (a b : Option Value) :
    compareForSort b a = (compareForSort a b).swap := by
  rcases a with _ | _ | _ | _ | _ | _ | _ | _ <;> rcases b with _ | _ | _ | _ | _ | _ | _ | _ <;>
    first
    | rfl
    | exact Std.OrientedOrd.eq_swap

/-- Where a value stands within its kind, every number as binary64. -/
def coarsePlace : Option Value → Int
  | some (.bool b) => b.toNat
  | some (.int n) => totalPlace (Value.floatOfInt n)
  | some (.float x) => totalPlace x
  | _ => 0

/-- The text of a string. -/
def coarseText : Option Value → String
  | some (.string s) => s
  | _ => ""

/-- The comparison for sorting with every number made binary64. -/
def compareCoarsely : Option Value → Option Value → Ordering :=
  compareLex (compareOn Value.rank) (compareLex (compareOn coarsePlace) (compareOn coarseText))

instance : Std.TransCmp compareCoarsely :=
  inferInstanceAs (Std.TransCmp (compareLex (compareOn Value.rank)
    (compareLex (compareOn coarsePlace) (compareOn coarseText))))

theorem compareCoarsely_bool (a b : Bool) :
    compareCoarsely (some (.bool a)) (some (.bool b)) = compare a.toNat b.toNat := by
  revert a b; decide

/-- Only two integers are compared more finely. -/
theorem compareForSort_eq_coarsely {a b : Option Value}
    (h : ∀ m n, a = some (.int m) → b ≠ some (.int n)) :
    compareForSort a b = compareCoarsely a b := by
  rcases a with _ | _ | _ | _ | _ | _ | _ | _ <;> rcases b with _ | _ | _ | _ | _ | _ | _ | _ <;>
    first
    | rfl
    | exact absurd rfl (h _ _ rfl)
    | exact (compareCoarsely_bool _ _).symm
    | simp [compareForSort, compareCoarsely, compareLex, compareOn, totalCompare, coarsePlace,
        coarseText, Value.rank]

theorem isLE_int {m n : Int64} :
    (compareForSort (some (.int m)) (some (.int n))).isLE ↔ m ≤ n := by
  rw [compareForSort, Std.isLE_compare, Int64.le_iff_toInt_le]

theorem isLE_coarsely_int {m n : Int64} :
    (compareCoarsely (some (.int m)) (some (.int n))).isLE ↔
      totalPlace (Value.floatOfInt m) ≤ totalPlace (Value.floatOfInt n) := by
  simp [compareCoarsely, compareLex, compareOn, coarsePlace, coarseText, Value.rank,
    Std.isLE_compare]

theorem rank_le_of_isLE_coarsely {a b : Option Value} (h : (compareCoarsely a b).isLE) :
    Value.rank a ≤ Value.rank b :=
  Std.isLE_compare.1 (Ordering.isLE_left_of_isLE_then h)

theorem coarsePlace_le_of_isLE {a b : Option Value} (hrank : Value.rank a = Value.rank b)
    (h : (compareCoarsely a b).isLE) : coarsePlace a ≤ coarsePlace b := by
  have hsame : compare (Value.rank a) (Value.rank b) ≠ .lt := by simp [hrank]
  have hplaces := (Ordering.isLE_then_iff_and.1 h).2.resolve_left hsame
  exact Std.isLE_compare.1 (Ordering.isLE_left_of_isLE_then hplaces)

theorem totalPlace_floatOfInt_mono {m n : Int64} (h : m ≤ n) :
    totalPlace (Value.floatOfInt m) ≤ totalPlace (Value.floatOfInt n) :=
  totalPlace_ofInt_mono (natAbs_toInt_lt m) (natAbs_toInt_lt n) (Int64.le_iff_toInt_le.1 h)

/-- The finer comparison of integers never goes against the coarse one. -/
theorem isLE_coarsely {a b : Option Value} (h : (compareForSort a b).isLE) :
    (compareCoarsely a b).isLE := by
  by_cases hints : ∃ m n, a = some (.int m) ∧ b = some (.int n)
  · obtain ⟨m, n, rfl, rfl⟩ := hints
    rw [isLE_int] at h
    rw [isLE_coarsely_int]
    exact totalPlace_floatOfInt_mono h
  · rwa [← compareForSort_eq_coarsely fun m n ha hb => hints ⟨m, n, ha, hb⟩]

/-- A binary64 number between two integers of which the first is larger, though both become that
very number. -/
def Conflict (a b c : Option Value) : Prop :=
  ∃ m x n, a = some (.int m) ∧ b = some (.float x) ∧ c = some (.int n) ∧ n < m ∧
    Value.floatOfInt m = x ∧ Value.floatOfInt n = x

/-- Between two integers there is a third or a binary64 number. -/
theorem isLE_trans_int {m n : Int64} {b : Option Value}
    (hmb : (compareForSort (some (.int m)) b).isLE) (hbn : (compareForSort b (some (.int n))).isLE)
    (hlt : n < m) : Conflict (some (.int m)) b (some (.int n)) := by
  have hlow := rank_le_of_isLE_coarsely (isLE_coarsely hmb)
  have hhigh := rank_le_of_isLE_coarsely (isLE_coarsely hbn)
  have hrank : Value.rank b = 3 := Nat.le_antisymm hhigh hlow
  rcases b with _ | _ | _ | k | x | _ | _ | _ <;> try simp [Value.rank] at hrank
  · rw [isLE_int, Int64.le_iff_toInt_le] at hmb hbn
    rw [Int64.lt_iff_toInt_lt] at hlt
    omega
  · have hmx : totalPlace (Value.floatOfInt m) ≤ totalPlace x :=
      coarsePlace_le_of_isLE (Nat.le_antisymm hlow hhigh) (isLE_coarsely hmb)
    have hxn : totalPlace x ≤ totalPlace (Value.floatOfInt n) :=
      coarsePlace_le_of_isLE (Nat.le_antisymm hhigh hlow) (isLE_coarsely hbn)
    have hnm := totalPlace_floatOfInt_mono (Int64.le_of_lt hlt)
    exact ⟨m, x, n, rfl, rfl, rfl, hlt, totalPlace_injective (by omega),
      totalPlace_injective (by omega)⟩

/-- Two comparisons carry over to a third unless the values are in conflict. -/
theorem isLE_trans_iff {a b c : Option Value} (hab : (compareForSort a b).isLE)
    (hbc : (compareForSort b c).isLE) : (compareForSort a c).isLE ↔ ¬Conflict a b c := by
  by_cases hints : ∃ m n, a = some (.int m) ∧ c = some (.int n)
  · obtain ⟨m, n, rfl, rfl⟩ := hints
    rw [isLE_int]
    constructor
    · rintro hle ⟨m', _, n', hm, -, hn, hlt, -⟩
      cases hm
      cases hn
      exact absurd hle (Int64.not_le.2 hlt)
    · intro hno
      by_contra hlt
      exact hno (isLE_trans_int hab hbc (Int64.not_le.1 hlt))
  · have hno : ¬Conflict a b c := fun ⟨m, _, n, ha, _, hc, _⟩ => hints ⟨m, n, ha, hc⟩
    rw [compareForSort_eq_coarsely fun m n ha hc => hints ⟨m, n, ha, hc⟩]
    exact iff_of_true (Std.TransCmp.isLE_trans (isLE_coarsely hab) (isLE_coarsely hbc)) hno

/-! ## Comparing rows -/

/-- No field of the rows of a class holds a conflict. -/
def FreeOfConflicts (R : Row → Prop) : Prop :=
  ∀ field a b c, R a → R b → R c → ¬Conflict (a.value field) (b.value field) (c.value field)

variable {R : Row → Prop}

/-- A sort key orders rows whose values in its field hold no conflict. -/
theorem SortKey.isTotalPreorderOn {key : SortKey} (h : ∀ a b c, R a → R b → R c →
      ¬Conflict (a.value key.field) (b.value key.field) (c.value key.field)) :
    IsTotalPreorderOn R key.compareRows := by
  have hascending : IsTotalPreorderOn R fun a b =>
      compareForSort (a.value key.field) (b.value key.field) := {
    swap := fun a b _ _ => compareForSort_swap _ _
    trans := fun a b c ha hb hc hab hbc => (isLE_trans_iff hab hbc).2 (h a b c ha hb hc) }
  obtain ⟨field, priority, descending⟩ := key
  cases descending with
  | false => exact hascending
  | true => exact hascending.reversed

/-- Several sort keys order rows without conflicts in their fields. -/
theorem isTotalPreorderOn_compareRows_of_keys {keys : List SortKey}
    (h : ∀ key ∈ keys, ∀ a b c, R a → R b → R c →
      ¬Conflict (a.value key.field) (b.value key.field) (c.value key.field)) :
    IsTotalPreorderOn R (compareRows keys) := by
  induction keys with
  | nil => exact { swap := fun _ _ _ _ => rfl, trans := fun _ _ _ _ _ _ _ _ => rfl }
  | cons key keys ih =>
    obtain ⟨hkey, hkeys⟩ := List.forall_mem_cons.1 h
    exact (SortKey.isTotalPreorderOn hkey).andThen (ih hkeys)

theorem isTotalPreorderOn_compareRows (h : FreeOfConflicts R) (keys : List SortKey) :
    IsTotalPreorderOn R (compareRows keys) :=
  isTotalPreorderOn_compareRows_of_keys fun key _ => h key.field

/-- The outer two of three values in conflict are each level with the middle one. -/
theorem Conflict.tied {a b c : Option Value} (h : Conflict a b c) :
    compareForSort a b = .eq ∧ compareForSort b c = .eq := by
  obtain ⟨m, x, n, rfl, rfl, rfl, -, hm, hn⟩ := h
  constructor
  · show totalCompare (Value.floatOfInt m) x = .eq
    rw [hm]
    exact Std.compare_self
  · show totalCompare x (Value.floatOfInt n) = .eq
    rw [hn]
    exact Std.compare_self

/-- Rows whose values include a conflict are not even put in order by that one field. -/
theorem freeOfConflicts_of_isTotalPreorderOn (h : ∀ keys, IsTotalPreorderOn R (compareRows keys)) :
    FreeOfConflicts R := by
  intro field a b c ha hb hc hconflict
  have hone : ∀ a b : Row, compareRows [⟨field, 0, false⟩] a b =
      compareForSort (a.value field) (b.value field) := fun a b => by
    simp [compareRows, SortKey.compareRows]
  obtain ⟨hab, hbc⟩ := hconflict.tied
  have hac := (h [⟨field, 0, false⟩]).trans a b c ha hb hc (by simp [hone, hab])
    (by simp [hone, hbc])
  rw [hone] at hac
  exact (isLE_trans_iff (by simp [hab]) (by simp [hbc])).1 hac hconflict

/-- Two values are compared in opposite ways from their two sides, comparisons of three values carry
over exactly when the three are in no conflict, and a class of rows is put in order by every choice
of sort keys exactly when its fields hold no conflict. -/
theorem sorting_isTotalPreorder_iff (a b c : Option Value) (R : Row → Prop) :
    compareForSort b a = (compareForSort a b).swap ∧
      ((compareForSort a b).isLE → (compareForSort b c).isLE →
        ((compareForSort a c).isLE ↔ ¬Conflict a b c)) ∧
      ((∀ keys, IsTotalPreorderOn R (compareRows keys)) ↔ FreeOfConflicts R) := by
  refine ⟨compareForSort_swap a b, isLE_trans_iff, ?_⟩
  constructor
  · intro h
    exact freeOfConflicts_of_isTotalPreorderOn h
  · intro h keys
    exact isTotalPreorderOn_compareRows h keys

/-- The first integer that binary64 cannot hold is level with its neighbour as binary64, which is
level with the neighbour itself, yet comes after it. -/
theorem sorting_not_transitive_beyond_2_53 :
    let a := some (Value.int 9007199254740993)
    let b := some (Value.float (Value.floatOfInt 9007199254740992))
    let c := some (Value.int 9007199254740992)
    Conflict a b c ∧ (compareForSort a b).isLE ∧ (compareForSort b c).isLE ∧
      ¬(compareForSort a c).isLE := by
  intro a b c
  have hconflict : Conflict a b c := ⟨_, _, _, rfl, rfl, rfl, by decide, by decide +kernel, rfl⟩
  obtain ⟨hab, hbc⟩ := hconflict.tied
  have hab : (compareForSort a b).isLE := by simp [hab]
  have hbc : (compareForSort b c).isLE := by simp [hbc]
  obtain ⟨-, htrans, -⟩ := sorting_isTotalPreorder_iff a b c fun _ => True
  exact ⟨hconflict, hab, hbc, fun hac => (htrans hab hbc).1 hac hconflict⟩

end Reshape
