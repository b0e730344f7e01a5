import Reshape.Proofs.Decimal.Arithmetic
import Reshape.Value.Identity
import Reshape.Vocabulary.Transform

/-!
# Rounding to many places

A decimal has at most 28 places, and a binary64 number becomes a decimal before it is rounded. So
from 28 places on there is nothing left to round, and the number of places no longer shows
(`Transform.roundFloat_of_le`). That much is asked of the decimals, whatever arithmetic they have
(`DecimalArithmetic.KeepsPlaces`).

The number of places that is asked for shows all the same, because only its low 32 bits count:
`2 ^ 32` places are none, and rounding to them gives a whole number. The law holds for exactly those
numbers of places whose low bits are 28 or more themselves (`Transform.rounded_many_places`).
-/

namespace Reshape

namespace Transform

/-! ## Rounding -/

variable {decimals : DecimalArithmetic}

/-- From 28 places on, the number of places does not show. -/
theorem roundFloat_of_le (hdecimals : decimals.KeepsPlaces) {places : Nat}
    (h : Decimal.maxScale ≤ places) (x : Float) :
    roundFloat decimals places x = roundFloat decimals Decimal.maxScale x := by
  have hplaces : places ≠ 0 := Nat.ne_of_gt (Nat.lt_of_lt_of_le (by decide) h)
  unfold roundFloat
  cases hx : decimals.ofFloat? x with
  | none => rfl
  | some d =>
    have hscale := hdecimals.scale_le hx
    simp only [Option.bind_some, hdecimals.roundTo_of_le hscale,
      hdecimals.roundTo_of_le (Nat.le_trans hscale h), if_neg hplaces]
    rfl

/-- Only a number rounded to no places at all can become an integer. -/
theorem eq_zero_of_roundFloat_eq_int {places : Nat} {x : Float} {n : Int64}
    (h : roundFloat decimals places x = .int n) : places = 0 := by
  unfold roundFloat at h
  split at h
  · cases h
  · split at h
    · next hplaces => exact hplaces
    · cases h

/-- Any fewer places than 28 round the smallest decimal away. -/
theorem roundFloat_smallest (hdecimals : decimals.KeepsPlaces) {places : Nat}
    (h : places < Decimal.maxScale) :
    roundFloat decimals places 1e-28 ≠ roundFloat decimals Decimal.maxScale 1e-28 := by
  obtain ⟨x, hx, hne⟩ := hdecimals.toFloat?_smallest
  have hsame : decimals.roundTo Decimal.maxScale .smallest = .smallest :=
    hdecimals.roundTo_of_le (Nat.le_refl _)
  have hkept : roundFloat decimals Decimal.maxScale 1e-28 = .float x := by
    rw [roundFloat, hdecimals.ofFloat?_smallest, Option.bind_some, hsame, hx]
    rfl
  have hlost : roundFloat decimals places 1e-28 = if places = 0 then whole 0 else .float 0 := by
    rw [roundFloat, hdecimals.ofFloat?_smallest, Option.bind_some,
      hdecimals.toFloat?_roundTo_smallest h]
  have hwhole : whole 0 = .int 0 := by decide +kernel
  rw [hkept, hlost, hwhole]
  split
  · exact nofun
  · exact fun heq => hne (Value.float.inj heq).symm

section Places

variable {d : Int64}

/-- The number of places that counts of the number that is asked for: its low 32 bits. -/
def lowPlaces (d : Int64) : Nat := d.toInt.toNat % 0x100000000

theorem places?_int (h : 0 ≤ d.toInt) : places? (.int d) = some (lowPlaces d) := by
  have hnonneg : ¬d < 0 := by
    rw [Int64.lt_iff_toInt_lt]
    exact Int.not_lt.2 h
  exact if_neg hnonneg

theorem rounded_float (h : 0 ≤ d.toInt) (x : Float) :
    rounded decimals (.float x) (.int d) = roundFloat decimals (lowPlaces d) x := by
  rw [rounded, places?_int h]

/-- To ask for `d` places, 28 or more, is to ask for as many as its low 32 bits say. Every finite
number is rounded as it is to 28 places exactly when these are 28 or more, and a number becomes an
integer only if they are zero. -/
theorem rounded_many_places (hdecimals : decimals.KeepsPlaces) (h : 28 ≤ d.toInt) :
    (∀ number, rounded decimals number (.int d) =
        rounded decimals number (.int (Int64.ofNat (lowPlaces d)))) ∧
      ((∀ x, Binary64.isFinite x = true →
          rounded decimals (.float x) (.int d) = rounded decimals (.float x) (.int 28)) ↔
        28 ≤ lowPlaces d) ∧
      ∀ x n, rounded decimals (.float x) (.int d) = .int n → lowPlaces d = 0 := by
  have hd : 0 ≤ d.toInt := Int.le_trans (by decide) h
  have hlow : lowPlaces d < 0x100000000 := Nat.mod_lt _ (by decide)
  have hint : (Int64.ofNat (lowPlaces d)).toInt = lowPlaces d :=
    Int64.toInt_ofNat_of_lt (Nat.lt_trans hlow (by decide))
  refine ⟨fun number => ?_, ?_, fun x n hn => ?_⟩
  · have hsame : lowPlaces (Int64.ofNat (lowPlaces d)) = lowPlaces d := by
      rw [lowPlaces, hint, Int.toNat_natCast, Nat.mod_eq_of_lt hlow]
    rw [rounded, rounded, places?_int hd, places?_int (by omega), hsame]
  · have h28 : ∀ x, rounded decimals (.float x) (.int 28) =
        roundFloat decimals Decimal.maxScale x := rounded_float (by decide)
    simp only [rounded_float hd, h28]
    constructor
    · intro hall
      refine Nat.le_of_not_lt fun hfew => ?_
      exact roundFloat_smallest hdecimals hfew (hall 1e-28 (by decide +kernel))
    · intro hmany x _
      exact roundFloat_of_le hdecimals hmany x
  · rw [rounded_float hd] at hn
    exact eq_zero_of_roundFloat_eq_int hn

/-- To `2 ^ 32` places two and a half is three, and to 28 it stays as it is. -/
theorem rounded_to_2_32_places :
    let rounded := rounded .standard
    DecimalArithmetic.standard.KeepsPlaces ∧ 28 ≤ (0x100000000 : Int64).toInt ∧
      rounded (.float 2.5) (.int 0x100000000) = .int 3 ∧
      rounded (.float 2.5) (.int 28) = .float 2.5 ∧
      ¬∀ x, Binary64.isFinite x = true →
        rounded (.float x) (.int 0x100000000) = rounded (.float x) (.int 28) := by
  intro rounded
  have hdecimals := DecimalArithmetic.standard_keepsPlaces
  have h : 28 ≤ (0x100000000 : Int64).toInt := by decide
  obtain ⟨hlow, hsame, -⟩ := rounded_many_places hdecimals h
  refine ⟨hdecimals, h, (hlow (.float 2.5)).trans (by decide +kernel), by decide +kernel,
    fun hall => ?_⟩
  exact absurd (hsame.1 hall) (by decide)

end Places

end Transform

end Reshape
