import Reshape.Proofs.Binary64.Whole
import Reshape.Proofs.Node.Ranking
import Reshape.Proofs.Value.Order

/-!
# What ties in sorting

Sorting compares any two values, the order within a kind only values of one kind. Where the latter
is defined the two agree, but for one pair of numbers: the two zeros are equal, and sorting puts the
negative one first (`Value.ZerosApart`). So where two records hold equal terminal values in the
field of a sort key, the keys behind it decide, unless these values are the two zeros
(`sorting_agrees_unless_zeros_apart`).
-/

namespace Reshape

/-! ## Two orders of numbers -/

/-- The total order is the arithmetic one, the two zeros excepted. -/
theorem Binary64.totalCompare_eq_compare_iff {x y : Float} :
    totalCompare x y = compare (place x) (place y) ↔
      ¬(x = -0.0 ∧ y = 0 ∨ x = 0 ∧ y = -0.0) := by
  constructor
  · intro h hzeros
    rcases hzeros with ⟨rfl, rfl⟩ | ⟨rfl, rfl⟩
    · exact absurd h (by decide +kernel)
    · exact absurd h (by decide +kernel)
  · intro hno
    rw [totalCompare]
    rcases lt_trichotomy (place x) (place y) with hlt | heq | hgt
    · have htotal : totalPlace x < totalPlace y := by
        by_contra hle
        exact absurd (Value.place_le_of_totalPlace_le (not_lt.1 hle)) (not_le.2 hlt)
      rw [compare_lt_iff_lt.2 hlt, compare_lt_iff_lt.2 htotal]
    · obtain rfl := (eq_or_zeros_of_place heq).resolve_right hno
      rw [Std.compare_self, Std.compare_self]
    · have htotal : totalPlace y < totalPlace x := by
        by_contra hle
        exact absurd (Value.place_le_of_totalPlace_le (not_lt.1 hle)) (not_le.2 hgt)
      rw [compare_gt_iff_gt.2 hgt, compare_gt_iff_gt.2 htotal]

/-! ## Two values -/

namespace Value

/-- The zero with a sign. -/
def IsNegativeZero (v : Value) : Prop := v = .float (-0.0)

/-- The zero without a sign, of either kind of number. -/
def IsPositiveZero (v : Value) : Prop := v = .int 0 ∨ v = .float 0

/-- Whether one of two values is the negative zero and the other a positive one. -/
def ZerosApart (a b : Value) : Prop :=
  a.IsNegativeZero ∧ b.IsPositiveZero ∨ a.IsPositiveZero ∧ b.IsNegativeZero

variable {a b v : Value} {x y : Float} {o : Ordering}

theorem eq_zero_of_magnitude_floatOfInt {n : Int64} (h : Binary64.magnitude (floatOfInt n) = 0) :
    n = 0 :=
  Int64.toInt_inj.1 (Binary64.eq_zero_of_magnitude_ofInt (Binary64.natAbs_toInt_lt n) h)

/-- No integer becomes the negative zero. -/
theorem isNegativeZero_iff (h : v.toFloat? = some x) : v.IsNegativeZero ↔ x = -0.0 := by
  unfold IsNegativeZero
  cases v with
  | int n =>
    obtain rfl := Option.some_inj.1 h
    refine iff_of_false (fun hv => nomatch hv) fun hx => ?_
    obtain rfl : n = 0 := eq_zero_of_magnitude_floatOfInt (by rw [hx]; decide +kernel)
    exact absurd hx (by decide +kernel)
  | float y =>
    obtain rfl := Option.some_inj.1 h
    rw [float.injEq]
  | _ => cases h

theorem isPositiveZero_iff (h : v.toFloat? = some x) : v.IsPositiveZero ↔ x = 0 := by
  unfold IsPositiveZero
  cases v with
  | int n =>
    obtain rfl := Option.some_inj.1 h
    constructor
    · rintro (hn | hn)
      · obtain rfl := int.inj hn
        decide +kernel
      · cases hn
    · intro hx
      exact .inl (congrArg int (eq_zero_of_magnitude_floatOfInt (by rw [hx]; decide +kernel)))
  | float y =>
    obtain rfl := Option.some_inj.1 h
    simp
  | _ => cases h

/-- Numbers compared as binary64 numbers are sorted as they compare, the two zeros excepted. -/
theorem totalCompare_eq_iff (ha : a.toFloat? = some x) (hb : b.toFloat? = some y)
    (h : Binary64.compare? x y = some o) :
    Binary64.totalCompare x y = o ↔ ¬a.ZerosApart b := by
  have ho : compare (Binary64.place x) (Binary64.place y) = o := by
    unfold Binary64.compare? at h
    split at h
    · cases h
    · exact Option.some_inj.1 h
  rw [ZerosApart, isNegativeZero_iff ha, isNegativeZero_iff hb, isPositiveZero_iff ha,
    isPositiveZero_iff hb, ← ho]
  exact Binary64.totalCompare_eq_compare_iff

theorem not_zerosApart_of_noFloat (ha : a.NoFloat) (hb : b.NoFloat) : ¬a.ZerosApart b := by
  rintro (⟨h, -⟩ | ⟨-, h⟩)
  · exact ha _ h
  · exact hb _ h

theorem compareForSort_of_noFloat (ha : a.NoFloat) (hb : b.NoFloat) (h : a.compare? b = some o) :
    compareForSort (some a) (some b) = o := by
  cases a <;> cases b <;> first
    | exact Option.some_inj.1 h
    | exact absurd rfl (ha _)
    | exact absurd rfl (hb _)
    | cases h

/-- Sorting agrees with the order within a kind on every pair of values but the two zeros. -/
theorem compareForSort_eq_iff (h : a.compare? b = some o) :
    compareForSort (some a) (some b) = o ↔ ¬a.ZerosApart b := by
  by_cases hfloat : a.NoFloat ∧ b.NoFloat
  · exact iff_of_true (compareForSort_of_noFloat hfloat.1 hfloat.2 h)
      (not_zerosApart_of_noFloat hfloat.1 hfloat.2)
  -- One of them is a binary64 number, and the other a number too.
  cases a with
  | int m =>
    cases b with
    | float y => exact totalCompare_eq_iff rfl rfl h
    | int n => exact absurd (by simp [NoFloat]) hfloat
    | _ => cases h
  | float x =>
    cases b with
    | int n => exact totalCompare_eq_iff rfl rfl h
    | float y => exact totalCompare_eq_iff rfl rfl h
    | _ => cases h
  | _ =>
    cases b with
    | float y => cases h
    | _ => exact absurd (by simp [NoFloat]) hfloat

/-- Terminal values are equal when neither comes before the other. -/
theorem equal_iff_compare? (ha : a.isTerminal = true) :
    a.equal b = true ↔ a.compare? b = some .eq := by
  cases a <;> cases b
  case bool.bool p q =>
    show (p == q) = true ↔ some (compare p.toNat q.toNat) = some .eq
    cases p <;> cases q <;> decide
  case int.int m n =>
    show (m == n) = true ↔ some (compare m.toInt n.toInt) = some .eq
    rw [beq_iff_eq, Option.some_inj, compare_eq_iff_eq, Int64.toInt_inj]
  case int.float m y => exact beq_iff_eq
  case float.int x n =>
    show Binary64.equal (floatOfInt n) x = true ↔ Binary64.compare? x (floatOfInt n) = some .eq
    rw [Binary64.equal_comm]
    exact beq_iff_eq
  case float.float x y => exact beq_iff_eq
  case string.string s t =>
    show (s == t) = true ↔ some (compare s t) = some .eq
    rw [beq_iff_eq, Option.some_inj, compare_eq_iff_eq]
  all_goals first
    | exact absurd ha Bool.false_ne_true
    | exact iff_of_true rfl rfl
    | exact iff_of_false Bool.false_ne_true (nomatch ·)

end Value

/-! ## Rows -/

section Rows

variable {key : SortKey} {r s : Row}

theorem SortKey.compareRows_eq_eq_iff :
    key.compareRows r s = .eq ↔
      compareForSort (r.value key.field) (s.value key.field) = .eq := by
  unfold SortKey.compareRows
  dsimp only
  split
  · exact Ordering.swap_eq_eq
  · rfl

/-- The keys behind one decide exactly when the rows tie on it. -/
theorem forall_compareRows_cons_iff :
    (∀ keys, compareRows (key :: keys) r s = compareRows keys r s) ↔ key.compareRows r s = .eq := by
  constructor
  · intro h
    simpa [compareRows] using h []
  · intro htie keys
    rw [compareRows, htie, Ordering.eq_then]

end Rows

/-- Where two values have an order within their kind, sorting orders them in the same way unless
they are the two zeros. Equal terminal values are therefore ties of a sort key, and the keys behind
it decide, unless they are the two zeros. -/
theorem sorting_agrees_unless_zeros_apart (a b : Value) :
    (∀ o, a.compare? b = some o →
      (compareForSort (some a) (some b) = o ↔ ¬a.ZerosApart b)) ∧
    (a.isTerminal = true → a.equal b = true →
      (compareForSort (some a) (some b) = .eq ↔ ¬a.ZerosApart b) ∧
      ∀ (key : SortKey) (r s : Row), r.value key.field = some a → s.value key.field = some b →
        ((∀ keys, compareRows (key :: keys) r s = compareRows keys r s) ↔ ¬a.ZerosApart b)) := by
  refine ⟨fun o => Value.compareForSort_eq_iff, ?_⟩
  intro hterminal hequal
  have htie := Value.compareForSort_eq_iff ((Value.equal_iff_compare? hterminal).1 hequal)
  refine ⟨htie, fun key r s hr hs => ?_⟩
  rw [forall_compareRows_cons_iff, SortKey.compareRows_eq_eq_iff, hr, hs]
  exact htie

/-- Of two records with zeros in the first field to sort by, the one with the negative zero comes
first, although the zeros are equal and it is behind on the second field. Were its zero the positive
one, the second field would decide. -/
theorem negative_zero_sorted_first :
    let record (zero : Value) (n : Int64) : Row := ⟨[some zero, some (.int n)], []⟩
    let first : SortKey := ⟨0, 1, false⟩
    let second : SortKey := ⟨1, 2, false⟩
    Value.compare? (.int 0) (.float (-0.0)) = some .eq ∧
      compareForSort (some (.int 0)) (some (.float (-0.0))) ≠ .eq ∧
      compareRows [first, second] (record (.int 0) 1) (record (.float (-0.0)) 2) = .gt ∧
      compareRows [first, second] (record (.int 0) 1) (record (.float 0) 2) = .lt := by
  intro record first second
  have hcompare : Value.compare? (.int 0) (.float (-0.0)) = some .eq := by decide +kernel
  have hequal : Value.equal (.int 0) (.float 0) = true := by decide +kernel
  have hzeros : Value.ZerosApart (.int 0) (.float (-0.0)) := .inr ⟨.inl rfl, rfl⟩
  have hzeros' : ¬Value.ZerosApart (.int 0) (.float 0) := by
    rintro (⟨h, -⟩ | ⟨-, h⟩)
    · cases h
    · exact absurd (Value.float.inj h) (by decide +kernel)
  obtain ⟨hagrees, -⟩ := sorting_agrees_unless_zeros_apart (.int 0) (.float (-0.0))
  obtain ⟨-, hties⟩ := sorting_agrees_unless_zeros_apart (.int 0) (.float 0)
  refine ⟨hcompare, fun htie => (hagrees .eq hcompare).1 htie hzeros, by decide +kernel, ?_⟩
  have hsecond := (hties rfl hequal).2 first (record (.int 0) 1) (record (.float 0) 2) rfl rfl
  rw [hsecond.2 hzeros']
  decide +kernel

end Reshape
