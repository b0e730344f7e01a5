import Reshape.Proofs.Decimal.Arithmetic
import Reshape.Proofs.Value.Order
import Reshape.Vocabulary.Aggregation
import Mathlib.Algebra.BigOperators.Group.List.Basic

/-!
# Folds and the order of arrival

The state of a fold is a history, yet for some folds the result is not. A count and an exact total
of integers depend on nothing but which values were fed, and so does an extreme of values of one
kind (`Fold.run_eq_of_perm`).

A total of integers stays exact as long as no sum on the way needs more than 96 bits
(`Total.isExact_foldl`), and then its binary64 shadow, which does depend on the order, stays hidden.
That takes decimals that are exact on whole numbers, and nothing else about them
(`DecimalArithmetic.ExactOnWholes`).
An extreme is one of the values fed, and none of them beats it, whatever kinds are mixed
(`Fold.extremes_never_beaten`): the best value so far is unbeaten, and a value that beats it is
unbeaten too, because the strict part of the order is transitive (`Accumulator.Unbeaten.snoc`).
-/

namespace Reshape

open Value (compare?)

/-! ## Totals of integers -/

/-- What a value adds to a total of integers. -/
def Value.addend : Value → Int
  | .int n => n.toInt
  | _ => 0

/-- The sum of the integers among some values. -/
def integerSum (values : List Value) : Int := (values.map Value.addend).sum

namespace Total

/-- Whether a total is the exact one of integers that add up to a sum. -/
structure IsExact (t : Total) (sum : Int) : Prop where
  exact : ∃ d, t.exact = some d ∧ d.IsWhole sum
  hasFloat : t.hasFloat = false

variable {decimals : DecimalArithmetic} {t : Total} {sum : Int}

theorem isExact_zero : zero.IsExact 0 := ⟨⟨_, rfl, Decimal.isWhole_zero⟩, rfl⟩

theorem IsExact.add (hdecimals : decimals.ExactOnWholes) (h : t.IsExact sum) {v : Value}
    (hv : v.NoFloat) (hroom : (sum + v.addend).natAbs < Decimal.mantissaLimit) :
    (t.add decimals v).IsExact (sum + v.addend) := by
  cases v with
  | int n =>
    obtain ⟨d, hd, hwhole⟩ := h.exact
    obtain ⟨next, hnext, hnextWhole⟩ := hdecimals.add? hwhole (hdecimals.ofInt64 n) hroom
    refine ⟨⟨next, ?_, hnextWhole⟩, h.hasFloat⟩
    rw [Total.add, push, hd]
    exact hnext
  | float x => exact absurd rfl (hv x)
  | _ => simpa [Total.add, Value.addend] using h

/-- A total of integers is exact if all the sums on the way have room. -/
theorem isExact_foldl (hdecimals : decimals.ExactOnWholes) (h : t.IsExact sum)
    {values : List Value} (hvalues : ∀ v ∈ values, v.NoFloat)
    (hroom : ∀ fed, fed <+: values → (sum + integerSum fed).natAbs < Decimal.mantissaLimit) :
    (values.foldl (add decimals) t).IsExact (sum + integerSum values) := by
  induction values generalizing t sum with
  | nil => simpa [integerSum] using h
  | cons v values ih =>
    obtain ⟨hv, hvalues⟩ := List.forall_mem_cons.1 hvalues
    have hstep : ∀ fed, sum + integerSum (v :: fed) = sum + v.addend + integerSum fed := by
      intro fed
      rw [integerSum, List.map_cons, List.sum_cons, ← Int.add_assoc, integerSum]
    have hnext : ∀ fed, fed <+: values →
        (sum + v.addend + integerSum fed).natAbs < Decimal.mantissaLimit := by
      intro fed hfed
      rw [← hstep]
      exact hroom _ (List.cons_prefix_cons.2 ⟨rfl, hfed⟩)
    have hone : (sum + v.addend).natAbs < Decimal.mantissaLimit := by
      simpa [integerSum] using hnext [] List.nil_prefix
    rw [hstep]
    exact ih (h.add hdecimals hv hone) hvalues hnext

theorem isExact_foldl_zero (hdecimals : decimals.ExactOnWholes) {values : List Value}
    (hvalues : ∀ v ∈ values, v.NoFloat)
    (hroom : ∀ fed, fed <+: values → (integerSum fed).natAbs < Decimal.mantissaLimit) :
    (values.foldl (add decimals) zero).IsExact (integerSum values) := by
  rw [← Int.zero_add (integerSum values)]
  refine isExact_foldl hdecimals isExact_zero hvalues fun fed hfed => ?_
  rw [Int.zero_add]
  exact hroom fed hfed

theorem IsExact.toValue_of_fits (hdecimals : decimals.ExactOnWholes) (h : t.IsExact sum)
    {n : Int64} (hn : n.toInt = sum) : t.toValue decimals = .int n := by
  obtain ⟨d, hd, hwhole⟩ := h.exact
  rw [toValue, h.hasFloat, hd, Option.bind_some, (hdecimals.toInt64? hwhole n).2 hn]
  rfl

theorem IsExact.toValue_of_not_fits (hdecimals : decimals.ExactOnWholes) (h : t.IsExact sum)
    (hsum : ∀ n : Int64, n.toInt ≠ sum) :
    t.toValue decimals = .float (Binary64.ofInt sum) := by
  obtain ⟨d, hd, hwhole⟩ := h.exact
  have hnone : decimals.toInt64? d = none :=
    Option.eq_none_iff_forall_ne_some.2 fun n hn => hsum n ((hdecimals.toInt64? hwhole n).1 hn)
  have hfloat : t.toFloat decimals = Binary64.ofInt sum := by
    rw [toFloat, hd, Option.bind_some, hdecimals.toFloat? hwhole]
    rfl
  rw [toValue, h.hasFloat, hd, Option.bind_some, hnone, hfloat]
  rfl

/-- The value of an exact total depends on the sum only. -/
theorem IsExact.toValue_eq (hdecimals : decimals.ExactOnWholes) {u : Total} (ht : t.IsExact sum)
    (hu : u.IsExact sum) : t.toValue decimals = u.toValue decimals := by
  by_cases hfits : ∃ n : Int64, n.toInt = sum
  · obtain ⟨n, hn⟩ := hfits
    rw [ht.toValue_of_fits hdecimals hn, hu.toValue_of_fits hdecimals hn]
  · have hsum := not_exists.1 hfits
    rw [ht.toValue_of_not_fits hdecimals hsum, hu.toValue_of_not_fits hdecimals hsum]

end Total

theorem natAbs_addend_le (v : Value) : v.addend.natAbs ≤ 2 ^ 63 := by
  cases v with
  | int n =>
    have := n.le_toInt
    have := n.toInt_lt
    simp only [Value.addend]
    omega
  | _ => simp [Value.addend]

theorem natAbs_integerSum_le (values : List Value) :
    (integerSum values).natAbs ≤ values.length * 2 ^ 63 := by
  induction values with
  | nil => simp [integerSum]
  | cons v values ih =>
    have hv := natAbs_addend_le v
    rw [integerSum] at ih ⊢
    rw [List.map_cons, List.sum_cons, List.length_cons]
    omega

/-- The sum of fewer than `2 ^ 32` values has room, whatever their order. -/
theorem Total.isExact_foldl_of_length_lt {decimals : DecimalArithmetic}
    (hdecimals : decimals.ExactOnWholes) {values : List Value}
    (hvalues : ∀ v ∈ values, v.NoFloat) (hlength : values.length < 2 ^ 32) :
    (values.foldl (Total.add decimals) Total.zero).IsExact (integerSum values) := by
  refine isExact_foldl_zero hdecimals hvalues fun fed hfed => ?_
  have hsum := natAbs_integerSum_le fed
  have hlimit : Decimal.mantissaLimit = 2 ^ 96 := rfl
  have hfed := hfed.length_le
  rw [hlimit]
  omega

/-! ## Extremes -/

namespace Accumulator

/-- Whether a value is one of some values, and none of them beats it. -/
def Unbeaten (keep : Ordering) (values : List Value) (best : Value) : Prop :=
  best ∈ values ∧ ∀ v ∈ values, compare? v best ≠ some keep

/-- The better of an unbeaten value and one more is unbeaten. -/
theorem Unbeaten.snoc {keep : Ordering} (hkeep : keep ≠ .eq) {values : List Value} {best : Value}
    (h : Unbeaten keep values best) (v : Value) :
    Unbeaten keep (values ++ [v]) (if compare? v best = some keep then v else best) := by
  obtain ⟨hmem, hbest⟩ := h
  split
  case isTrue hbeats =>
    refine ⟨by simp, fun w hw => ?_⟩
    rcases List.mem_append.1 hw with hw | hw
    · intro hwv
      exact hbest w hw (Value.compare?_trans_of_ne_eq hkeep hwv hbeats)
    · rw [List.mem_singleton.1 hw]
      exact Value.compare?_self_ne hkeep v
  case isFalse hbeats =>
    refine ⟨by simp [hmem], fun w hw => ?_⟩
    rcases List.mem_append.1 hw with hw | hw
    · exact hbest w hw
    · rw [List.mem_singleton.1 hw]
      exact hbeats

/-- The state of an extreme that was fed values is an unbeaten one of them. -/
theorem exists_foldl_extreme {keep : Ordering} (hkeep : keep ≠ .eq) {fed : List Value}
    {best : Value} (h : Unbeaten keep fed best) (values : List Value) :
    ∃ m, values.foldl add (.extreme keep (some best)) = .extreme keep (some m) ∧
      Unbeaten keep (fed ++ values) m := by
  induction values generalizing fed best with
  | nil => exact ⟨best, rfl, by rwa [List.append_nil]⟩
  | cons v values ih =>
    obtain ⟨m, hm, hunbeaten⟩ := ih (h.snoc hkeep v)
    exact ⟨m, hm, by rwa [List.append_assoc] at hunbeaten⟩

theorem foldl_count (values : List Value) (n : Nat) :
    values.foldl add (.count n) = .count (n + values.length) := by
  induction values generalizing n with
  | nil => rfl
  | cons v values ih =>
    rw [List.foldl_cons, add, ih, List.length_cons, Nat.add_right_comm, Nat.add_assoc]

theorem foldl_sum (decimals : DecimalArithmetic) (values : List Value) (total : Total) :
    values.foldl add (.sum decimals total) =
      .sum decimals (values.foldl (Total.add decimals) total) := by
  induction values generalizing total with
  | nil => rfl
  | cons v values ih => exact ih (total.add decimals v)

end Accumulator

/-! ## The order of arrival -/

namespace Fold

/-- Which of the values fed an extreme keeps; other folds are none. -/
def keep? : Fold → Option Ordering
  | .min => some .lt
  | .max => some .gt
  | _ => none

/-- A fold that asks how many values there are, what they add up to or which is the first or last
in order, and not in which order they came; of sums, those in decimals exact on whole numbers. -/
def IgnoresArrival : Fold → Prop
  | count | min | max => True
  | sum decimals => decimals.ExactOnWholes
  | values | avg _ | first | last | custom _ => False

/-- Values that such a fold can be fed in any order: few enough for exact totals, no binary64
numbers, and of one kind where the fold compares them. -/
structure Tallies (f : Fold) (values : List Value) : Prop where
  length : values.length < 2 ^ 32
  noFloat : ∀ v ∈ values, v.NoFloat
  kinds : f.keep?.isSome → ∀ v ∈ values, ∀ w ∈ values, v.OfOneKind w

variable {f : Fold} {values others : List Value}

theorem start_of_keep? {keep : Ordering} (h : f.keep? = some keep) :
    f.start = .extreme keep none ∧ keep ≠ .eq := by
  cases f with
  | min => cases h; exact ⟨rfl, by decide⟩
  | max => cases h; exact ⟨rfl, by decide⟩
  | _ => cases h

/-- The result of an extreme of at least one value is an unbeaten one of them. -/
theorem unbeaten_run {keep : Ordering} (h : f.keep? = some keep) (hne : values ≠ []) :
    Accumulator.Unbeaten keep values (f.run values) := by
  obtain ⟨hstart, hkeep⟩ := start_of_keep? h
  obtain ⟨v, values, rfl⟩ := List.exists_cons_of_ne_nil hne
  have hfirst : Accumulator.Unbeaten keep [v] v := by
    refine ⟨List.mem_singleton_self v, fun w hw => ?_⟩
    rw [List.mem_singleton.1 hw]
    exact Value.compare?_self_ne hkeep v
  obtain ⟨m, hm, hunbeaten⟩ := Accumulator.exists_foldl_extreme hkeep hfirst values
  have hrun : f.run (v :: values) = m := by
    rw [run, hstart, List.foldl_cons, Accumulator.add, hm]
    rfl
  rwa [hrun]

/-- Of at least one value, of whatever kinds, the minimum and the maximum are two that no other one
compares less than, or greater than. -/
theorem extremes_never_beaten (hne : values ≠ []) :
    (min.run values ∈ values ∧ ∀ v ∈ values, compare? v (min.run values) ≠ some .lt) ∧
      (max.run values ∈ values ∧ ∀ v ∈ values, compare? v (max.run values) ≠ some .gt) := by
  have hmin : Accumulator.Unbeaten .lt values (min.run values) := unbeaten_run rfl hne
  have hmax : Accumulator.Unbeaten .gt values (max.run values) := unbeaten_run rfl hne
  exact ⟨hmin, hmax⟩

/-- Extremes of a list in which two integers that differ are equal to one binary64 number, and in
which not all values have an order among them. -/
theorem extremes_of_mixed_values :
    let values := [.int 9007199254740993, .float 9007199254740992, .int 9007199254740992,
      .string "two", .float (0 / 0), .null]
    min.run values = .int 9007199254740992 ∧ max.run values = .int 9007199254740993 ∧
      (∀ v ∈ values, compare? v (.int 9007199254740992) ≠ some .lt) ∧
      ∀ v ∈ values, compare? v (.int 9007199254740993) ≠ some .gt := by
  intro values
  have hmin : min.run values = .int 9007199254740992 := rfl
  have hmax : max.run values = .int 9007199254740993 := rfl
  have hne : values ≠ [] := List.cons_ne_nil _ _
  obtain ⟨⟨-, hless⟩, -, hgreater⟩ := extremes_never_beaten hne
  exact ⟨hmin, hmax, hmin ▸ hless, hmax ▸ hgreater⟩

/-- Of values of one kind without binary64 numbers, only one is unbeaten. -/
theorem eq_of_unbeaten {keep : Ordering} (hkeep : keep ≠ .eq)
    (hkinds : ∀ v ∈ values, ∀ w ∈ values, v.OfOneKind w) (hfloat : ∀ v ∈ values, v.NoFloat)
    {m n : Value} (hm : Accumulator.Unbeaten keep values m)
    (hn : Accumulator.Unbeaten keep values n) : m = n := by
  have hmn := hn.2 m hm.1
  have hnm : compare? m n ≠ some keep.swap := by
    intro h
    refine hm.2 n hn.1 ?_
    rw [Value.compare?_swap, h, Option.map_some, Ordering.swap_swap]
  have hkind := hkinds m hm.1 n hn.1
  have hfloats := And.intro (hfloat m hm.1) (hfloat n hn.1)
  cases keep with
  | eq => exact absurd rfl hkeep
  | lt => exact Value.eq_of_not_before hkind hfloats.1 hfloats.2 hmn hnm
  | gt => exact Value.eq_of_not_before hkind hfloats.1 hfloats.2 hnm hmn

theorem run_eq_of_perm_of_keep? {keep : Ordering} (hkeep : f.keep? = some keep)
    (h : f.Tallies values) (hperm : values.Perm others) : f.run values = f.run others := by
  by_cases hvalues : values = []
  · subst hvalues
    rw [hperm.nil_eq]
  have hothers : others ≠ [] := fun hnil => hvalues (hnil ▸ hperm).eq_nil
  have hkinds := h.kinds (Option.isSome_iff_exists.2 ⟨keep, hkeep⟩)
  have hunbeaten := unbeaten_run hkeep hothers
  refine eq_of_unbeaten (start_of_keep? hkeep).2 hkinds h.noFloat (unbeaten_run hkeep hvalues)
    ⟨hperm.mem_iff.2 hunbeaten.1, fun v hv => ?_⟩
  exact hunbeaten.2 v (hperm.mem_iff.1 hv)

/-- What such a fold makes of some values does not depend on the order in which they came. -/
theorem run_eq_of_perm (hf : f.IgnoresArrival) (h : f.Tallies values) (hperm : values.Perm others) :
    f.run values = f.run others := by
  cases f with
  | count => rw [run, run, start, Accumulator.foldl_count, Accumulator.foldl_count, hperm.length_eq]
  | sum decimals =>
    have hothers : ∀ v ∈ others, v.NoFloat := fun v hv => h.noFloat v (hperm.mem_iff.2 hv)
    have hsum : integerSum values = integerSum others := (hperm.map _).sum_eq
    have htotal := Total.isExact_foldl_of_length_lt hf h.noFloat h.length
    have htotal' := Total.isExact_foldl_of_length_lt hf hothers (hperm.length_eq ▸ h.length)
    rw [run, run, start, Accumulator.foldl_sum, Accumulator.foldl_sum]
    exact htotal.toValue_eq hf (hsum ▸ htotal')
  | min => exact run_eq_of_perm_of_keep? rfl h hperm
  | max => exact run_eq_of_perm_of_keep? rfl h hperm
  | values | avg _ | first | last | custom _ => exact hf.elim

end Fold

end Reshape
