import Reshape.Proofs.Vocabulary.Aggregation

/-!
# What a sum is

As long as only integers count towards a sum, and no sum on the way needs more than 96 bits, the
result at every moment is the sum itself: an integer where it fits in 64 bits, even if an earlier
one did not, and else the binary64 number nearest to it. What is no number passes by, and after one
binary64 number the result stays one for good (`Fold.sum_exact`).

The invariant is `Total.IsExact`, which one value more preserves (`Total.IsExact.add`).
-/

namespace Reshape

/-! ## The state of a total -/

namespace Total

variable {decimals : DecimalArithmetic} {t : Total} {v : Value} {values : List Value}

/-- Values that are no numbers pass by. -/
theorem add_of_not_isNumber (t : Total) (hv : v.isNumber = false) : t.add decimals v = t := by
  cases v with
  | int n => cases hv
  | float x => cases hv
  | _ => rfl

theorem hasFloat_add_iff :
    (t.add decimals v).hasFloat = true ↔ t.hasFloat = true ∨ ¬v.NoFloat := by
  cases v <;> simp [add, push, Value.NoFloat]

/-- A total remembers that a binary64 number was added. -/
theorem hasFloat_foldl_iff : (values.foldl (add decimals) t).hasFloat = true ↔
    t.hasFloat = true ∨ ∃ v ∈ values, ¬v.NoFloat := by
  induction values generalizing t with
  | nil => simp
  | cons v values ih => simp [ih, hasFloat_add_iff, or_assoc]

end Total

/-! ## The sum at every moment -/

namespace Fold

theorem sum_run (decimals : DecimalArithmetic) (values : List Value) :
    (sum decimals).run values =
      (values.foldl (Total.add decimals) Total.zero).toValue decimals := by
  rw [run, start, Accumulator.foldl_sum]
  rfl

/-- While the values fed to a sum are integers and values that are no numbers, and the sums on the
way stay below `2 ^ 96`, the result is the sum of the integers so far: an integer if there is one of
64 bits, and otherwise the nearest binary64 number. A value that is no number leaves every state of
the fold as it is, and if there is a binary64 number among the values, the result is one too. -/
theorem sum_exact {decimals : DecimalArithmetic} (hdecimals : decimals.ExactOnWholes)
    {values : List Value} (hvalues : ∀ v ∈ values, v.NoFloat)
    (hroom : ∀ fed, fed <+: values → (integerSum fed).natAbs < 2 ^ 96) :
    (∀ fed, fed <+: values →
      (∀ n : Int64, n.toInt = integerSum fed → (sum decimals).run fed = .int n) ∧
      ((∀ n : Int64, n.toInt ≠ integerSum fed) →
        (sum decimals).run fed = .float (Binary64.ofInt (integerSum fed)))) ∧
    (∀ (total : Total) (v : Value), v.isNumber = false →
      Accumulator.add (.sum decimals total) v = .sum decimals total) ∧
    ∀ (fed : List Value) (x : Float), .float x ∈ fed → ∃ y, (sum decimals).run fed = .float y := by
  refine ⟨fun fed hfed => ?_, fun total v hv => ?_, fun fed x hx => ?_⟩
  · have hexact := Total.isExact_foldl_zero hdecimals (fun v hv => hvalues v (hfed.subset hv))
      fun earlier hearlier => hroom earlier (hearlier.trans hfed)
    rw [sum_run]
    exact ⟨fun n => hexact.toValue_of_fits hdecimals, hexact.toValue_of_not_fits hdecimals⟩
  · rw [Accumulator.add, Total.add_of_not_isNumber total hv]
  · have hfloat : (fed.foldl (Total.add decimals) Total.zero).hasFloat = true :=
      Total.hasFloat_foldl_iff.2 (.inr ⟨_, hx, fun h => h x rfl⟩)
    exact ⟨_, by rw [sum_run, Total.toValue, if_pos hfloat]⟩

/-- A sum that leaves the integers of 64 bits comes back to them. -/
theorem sum_leaves_and_returns :
    let sum := sum .standard
    let values := [.int Int64.maxValue, .int 1, .string "two", .int (-1)]
    sum.run (values.take 3) = .float (Binary64.ofInt (2 ^ 63)) ∧
      sum.run values = .int Int64.maxValue := by
  intro sum values
  have hvalues : ∀ v ∈ values, v.NoFloat := by
    simp [values, Value.NoFloat]
  have hroom : ∀ fed, fed <+: values → (integerSum fed).natAbs < 2 ^ 96 := by
    intro fed hfed
    have hsum := natAbs_integerSum_le fed
    have hlength : fed.length ≤ 4 := hfed.length_le
    omega
  obtain ⟨hexact, -, -⟩ := sum_exact DecimalArithmetic.standard_exactOnWholes hvalues hroom
  constructor
  · have hsum : integerSum (values.take 3) = 2 ^ 63 := by decide
    rw [(hexact _ (List.take_prefix 3 values)).2 fun n => ?_, hsum]
    have := n.toInt_lt
    omega
  · exact (hexact _ (List.prefix_refl values)).1 _ (by decide)

end Fold

end Reshape
