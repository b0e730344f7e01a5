import Reshape.Binary64.Whole
import Reshape.Proofs.Binary64.Rounding
import Mathlib.Tactic.LinearCombination

/-!
# Whole numbers and integers

A whole binary64 number is the one nearest to the integer it equals, so making that integer binary64
gives the number back. Below `2 ^ 53` the spacing is at most one: there a number that an integer
becomes equals the integer.
-/

namespace Reshape.Binary64

variable {x y : Float}

theorem size_magnitude (x : Float) : size (magnitude x) = significand x * 2 ^ exponent x := rfl

/-! ## Whole parts -/

/-- From the exponent zero on every number is whole. -/
theorem wholePart_of_exponent_nonneg (h : 0 ≤ exponent x) :
    wholePart x = significand x * 2 ^ (exponent x).toNat := by
  rw [wholePart, Nat.shiftLeft_eq, show (-exponent x).toNat = 0 by omega, Nat.shiftRight_zero]

/-- Below the exponent zero the whole part is a quotient. -/
theorem wholePart_of_exponent_nonpos (h : exponent x ≤ 0) :
    wholePart x = significand x / 2 ^ (-exponent x).toNat := by
  rw [wholePart, Nat.shiftRight_eq_div_pow, show (exponent x).toNat = 0 by omega,
    Nat.shiftLeft_zero]

theorem zpow_exponent_of_nonpos (h : exponent x ≤ 0) :
    (2 : ℚ) ^ exponent x * 2 ^ (-exponent x).toNat = 1 := by
  rw [← zpow_natCast, ← zpow_add₀ two_ne_zero, show exponent x + (-exponent x).toNat = 0 by omega,
    zpow_zero]

/-- A whole number is its whole part. -/
theorem size_of_isWhole (h : isWhole x = true) : size (magnitude x) = wholePart x := by
  rw [size_magnitude]
  rcases le_total 0 (exponent x) with hpos | hneg
  · rw [wholePart_of_exponent_nonneg hpos, Nat.cast_mul, Nat.cast_pow, Nat.cast_ofNat,
      ← zpow_natCast, Int.toNat_of_nonneg hpos]
  · simp only [isWhole, Bool.and_eq_true, beq_iff_eq, Nat.one_shiftLeft] at h
    obtain ⟨k, hk⟩ := Nat.dvd_of_mod_eq_zero h.2
    have hunit := zpow_exponent_of_nonpos hneg
    rw [wholePart_of_exponent_nonpos hneg, hk, Nat.mul_div_cancel_left k (Nat.two_pow_pos _)]
    push_cast
    linear_combination (k : ℚ) * hunit

/-- A number that equals a natural number is whole, with that number as its whole part. -/
theorem isWhole_of_size (hx : isFinite x = true) (hexp : exponent x ≤ 0) {n : Nat}
    (h : size (magnitude x) = n) : isWhole x = true ∧ wholePart x = n := by
  have hunit := zpow_exponent_of_nonpos hexp
  have hsig : significand x = n * 2 ^ (-exponent x).toNat := by
    rw [size_magnitude] at h
    have : (significand x : ℚ) = n * 2 ^ (-exponent x).toNat := by
      rw [← h, mul_assoc, hunit, mul_one]
    exact_mod_cast this
  constructor
  · simp [isWhole, hx, hsig, Nat.one_shiftLeft]
  · rw [wholePart_of_exponent_nonpos hexp, hsig, Nat.mul_div_cancel _ (Nat.two_pow_pos _)]

/-- Numbers with places to spare before the point are far from zero. -/
theorem le_wholePart_of_exponent_pos (h : 0 < exponent x) : 2 ^ 53 ≤ wholePart x := by
  have hfull : hiddenBit ≤ significand x := by
    rw [significand]
    split
    case isTrue hlow =>
      rw [exponent, Nat.div_eq_of_lt hlow] at h
      exact absurd h (by decide)
    case isFalse => exact Nat.le_add_right _ _
  obtain ⟨e, he⟩ : ∃ e, (exponent x).toNat = e + 1 := ⟨(exponent x).toNat - 1, by omega⟩
  rw [wholePart_of_exponent_nonneg h.le, he, Nat.pow_succ]
  calc 2 ^ 53 = hiddenBit * (1 * 2) := by decide
    _ ≤ significand x * (2 ^ e * 2) :=
      Nat.mul_le_mul hfull (Nat.mul_le_mul_right 2 (Nat.one_le_two_pow))

/-! ## Spacing of at most one -/

theorem exponentAt_mono {m n : Nat} (h : m ≤ n) : exponentAt m ≤ exponentAt n := by
  have := Nat.div_le_div_right (c := hiddenBit) h
  simp only [exponentAt]
  omega

theorem ulp_mono {m n : Nat} (h : m ≤ n) : ulp m ≤ ulp n :=
  zpow_le_zpow_right₀ (by norm_num) (exponentAt_mono h)

/-- A natural number is at most half a unit away from the magnitude it is nearest to. -/
theorem IsNearest.near {q : ℚ} {m : Nat} (h : IsNearest q m) (hq : 0 ≤ q) :
    size m - ulp m / 2 ≤ q ∧ q ≤ size m + ulp m / 2 := by
  refine ⟨?_, h.le_halfway le_rfl⟩
  cases m with
  | zero =>
    have hzero := size_zero
    have := ulp_pos 0
    linarith
  | succ k =>
    have hbelow := h.halfway_le (Nat.lt_succ_self k)
    have hspacing := ulp_mono (Nat.le_succ k)
    rw [halfway] at hbelow
    rw [size_succ]
    linarith

/-- Where the spacing is at most one, a natural number is nearest to itself only. -/
theorem IsNearest.eq_size {n m : Nat} (h : IsNearest n m) (hexp : exponentAt m ≤ 0) :
    size m = n := by
  obtain ⟨hlow, hhigh⟩ := h.near (Nat.cast_nonneg n)
  obtain ⟨e, he⟩ := Int.eq_ofNat_of_zero_le (show 0 ≤ -exponentAt m by omega)
  have hunit : ulp m * 2 ^ e = 1 := by
    rw [ulp, ← zpow_natCast, ← zpow_add₀ two_ne_zero, show exponentAt m + (e : Int) = 0 by omega,
      zpow_zero]
  have hpos := ulp_pos m
  have hn : (n : ℚ) = (n * 2 ^ e : Nat) * ulp m := by
    push_cast
    linear_combination -(n : ℚ) * hunit
  rw [size] at hlow hhigh ⊢
  rw [hn] at hlow hhigh ⊢
  have hle : n * 2 ^ e ≤ significandAt m := by
    by_contra hlt
    have : ((significandAt m + 1 : Nat) : ℚ) ≤ (n * 2 ^ e : Nat) := by exact_mod_cast not_le.1 hlt
    push_cast at this hhigh
    nlinarith
  have hge : significandAt m ≤ n * 2 ^ e := by
    by_contra hlt
    have : ((n * 2 ^ e + 1 : Nat) : ℚ) ≤ significandAt m := by exact_mod_cast not_le.1 hlt
    push_cast at this hlow
    nlinarith
  rw [le_antisymm hle hge]

/-! ## Equality with integers -/

theorem natAbs_place (x : Float) : (place x).natAbs = magnitude x := by
  rw [place]
  split <;> omega

/-- Away from zero a place is one number's. -/
theorem eq_of_place (h : place x = place y) (hx : magnitude x ≠ 0) : x = y := by
  have hmagnitude : magnitude x = magnitude y := by rw [← natAbs_place, h, natAbs_place]
  refine eq_of_magnitude ?_ hmagnitude
  rw [place, place, hmagnitude] at h
  cases hnx : isNegative x <;> cases hny : isNegative y <;>
    simp only [hnx, hny, if_true, if_false, Bool.false_eq_true] at h ⊢ <;> omega

theorem eq_zero_of_magnitude (hsign : isNegative x = false) (h : magnitude x = 0) : x = 0 :=
  eq_of_magnitude (hsign.trans (by decide +kernel)) (h.trans (by decide +kernel))

theorem eq_negativeZero_of_magnitude (hsign : isNegative x = true) (h : magnitude x = 0) :
    x = -0.0 :=
  eq_of_magnitude (hsign.trans (by decide +kernel)) (h.trans (by decide +kernel))

/-- Two numbers at one place are one number or the two zeros. -/
theorem eq_or_zeros_of_place (h : place x = place y) :
    x = y ∨ x = -0.0 ∧ y = 0 ∨ x = 0 ∧ y = -0.0 := by
  by_cases hx : magnitude x = 0
  · have hy : magnitude y = 0 := by rw [← natAbs_place, ← h, natAbs_place, hx]
    cases hnx : isNegative x <;> cases hny : isNegative y
    · exact .inl (eq_of_magnitude (hnx.trans hny.symm) (hx.trans hy.symm))
    · exact .inr (.inr ⟨eq_zero_of_magnitude hnx hx, eq_negativeZero_of_magnitude hny hy⟩)
    · exact .inr (.inl ⟨eq_negativeZero_of_magnitude hnx hx, eq_zero_of_magnitude hny hy⟩)
    · exact .inl (eq_of_magnitude (hnx.trans hny.symm) (hx.trans hy.symm))
  · exact .inl (eq_of_place h hx)

theorem equal_iff : equal x y = true ↔
    isNaN x = false ∧ isNaN y = false ∧ place x = place y := by
  cases hx : isNaN x <;> cases hy : isNaN y <;> simp [equal, compare?, hx, hy]

theorem magnitude_eq_zero_of_size (h : size (magnitude x) = 0) : magnitude x = 0 := by
  exact size_strictMono.injective (h.trans size_zero.symm)

/-- No integer but zero becomes zero. -/
theorem eq_zero_of_magnitude_ofInt {n : Int} (hn : n.natAbs < 2 ^ 64)
    (h : magnitude (ofInt n) = 0) : n = 0 := by
  have hnear := isNearest_nearestMagnitude hn
  rw [← magnitude_ofInt hn, h] at hnear
  have hsize : size 0 = n.natAbs := hnear.eq_size (by decide)
  rw [size_zero] at hsize
  exact Int.natAbs_eq_zero.1 (by exact_mod_cast hsize.symm)

/-- Only NaN is not equal to itself. -/
theorem equal_self_iff : equal x x = true ↔ isNaN x = false := by
  rw [equal_iff]
  exact ⟨fun h => h.1, fun h => ⟨h, h, rfl⟩⟩

theorem equal_comm (x y : Float) : equal x y = equal y x := by
  rw [Bool.eq_iff_iff, equal_iff, equal_iff]
  exact ⟨fun ⟨hx, hy, h⟩ => ⟨hy, hx, h.symm⟩, fun ⟨hy, hx, h⟩ => ⟨hx, hy, h.symm⟩⟩

theorem equal_trans {z : Float} (hxy : equal x y = true) (hyz : equal y z = true) :
    equal x z = true := by
  obtain ⟨hx, -, hplace⟩ := equal_iff.1 hxy
  obtain ⟨-, hz, hplace'⟩ := equal_iff.1 hyz
  exact equal_iff.2 ⟨hx, hz, hplace.trans hplace'⟩

theorem natAbs_truncate (x : Float) : (truncate x).natAbs = wholePart x := by
  rw [truncate]
  split <;> omega

/-- A whole number equals what its whole part becomes. -/
theorem place_ofInt_truncate (h : isWhole x = true) (hlimit : wholePart x < 2 ^ 64) :
    place (ofInt (truncate x)) = place x := by
  have hlimit' : (truncate x).natAbs < 2 ^ 64 := by rwa [natAbs_truncate]
  have hnear : IsNearest (wholePart x) (magnitude x) := size_of_isWhole h ▸ isNearest_size _
  have hmagnitude : magnitude (ofInt (truncate x)) = magnitude x := by
    rw [magnitude_ofInt hlimit', natAbs_truncate]
    exact (isNearest_nearestMagnitude hlimit).unique hnear
  rw [place, place, hmagnitude, isNegative_ofInt hlimit', truncate]
  cases hneg : isNegative x with
  | false => simp
  | true =>
    rcases Nat.eq_zero_or_pos (wholePart x) with hzero | hpos
    · have := size_of_isWhole h
      rw [hzero, Nat.cast_zero] at this
      simp [hzero, magnitude_eq_zero_of_size this]
    · simp [hpos]

/-- A number below `2 ^ 53` that an integer becomes equals the integer. -/
theorem eq_truncate_of_place {n : Int} (hn : n.natAbs < 2 ^ 64) (hx : isFinite x = true)
    (hsmall : wholePart x < 2 ^ 53) (h : place (ofInt n) = place x) :
    isWhole x = true ∧ truncate x = n := by
  have hmagnitude : nearestMagnitude n.natAbs 1 = magnitude x := by
    rw [← magnitude_ofInt hn, ← natAbs_place, h, natAbs_place]
  have hexp : exponent x ≤ 0 := by
    by_contra hpos
    have := le_wholePart_of_exponent_pos (not_le.1 hpos)
    omega
  have hsize : size (magnitude x) = n.natAbs :=
    (hmagnitude ▸ isNearest_nearestMagnitude hn).eq_size hexp
  obtain ⟨hwhole, hpart⟩ := isWhole_of_size hx hexp hsize
  refine ⟨hwhole, ?_⟩
  have hzero : magnitude x = 0 → n.natAbs = 0 := by
    intro hmag
    rw [hmag, size_zero] at hsize
    exact_mod_cast hsize.symm
  rw [place, place, isNegative_ofInt hn, magnitude_ofInt hn, hmagnitude] at h
  rw [truncate, hpart]
  cases hneg : isNegative x <;> by_cases hlt : n < 0 <;>
    simp only [hneg, hlt, decide_true, decide_false, if_true, if_false, Bool.false_eq_true]
      at h ⊢ <;>
    omega

/-- An integer below `2 ^ 53` becomes itself. -/
theorem wholePart_ofInt {n : Int} (hn : n.natAbs < 2 ^ 53) : wholePart (ofInt n) = n.natAbs := by
  have hlimit : n.natAbs < 2 ^ 64 := hn.trans (by decide)
  have hmagnitude := magnitude_ofInt hlimit
  have hexp : exponent (ofInt n) ≤ 0 := by
    have hmono := nearestMagnitude_mono (by decide) (Nat.le_pred_of_lt hn)
    have hlast : exponentAt (nearestMagnitude (2 ^ 53 - 1) 1) ≤ 0 := by decide +kernel
    rw [exponent_eq, hmagnitude]
    exact (exponentAt_mono hmono).trans hlast
  have hnear : IsNearest n.natAbs (magnitude (ofInt n)) :=
    hmagnitude ▸ isNearest_nearestMagnitude hlimit
  exact (isWhole_of_size (isFinite_ofInt hlimit) hexp (hnear.eq_size hexp)).2

/-- So it shares the number it becomes with no other integer. -/
theorem eq_of_ofInt_eq {m n : Int} (hm : m.natAbs < 2 ^ 53) (hn : n.natAbs < 2 ^ 64)
    (h : ofInt m = ofInt n) : m = n := by
  have hlimit : m.natAbs < 2 ^ 64 := hm.trans (by decide)
  have hsmall : wholePart (ofInt m) < 2 ^ 53 := by rwa [wholePart_ofInt hm]
  have hfinite := isFinite_ofInt hlimit
  obtain ⟨-, hself⟩ := eq_truncate_of_place hlimit hfinite hsmall rfl
  obtain ⟨-, hother⟩ := eq_truncate_of_place hn hfinite hsmall (congrArg place h.symm)
  exact hself.symm.trans hother

end Reshape.Binary64
