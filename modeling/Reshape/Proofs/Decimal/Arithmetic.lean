import Reshape.Decimal.Float

/-!
# Laws of decimal arithmetic

Totals and rounding work with whatever decimals they are given, and two laws are all that is asked
of them. `DecimalArithmetic.ExactOnWholes` says that integers are added and read back without loss
as long as they have room. `DecimalArithmetic.KeepsPlaces` says that a decimal has at most 28
places, that rounding to as many as it has changes nothing, and that the smallest decimal is there
to be rounded away.

Neither speaks of sums with places, of how a sum that has no room is rounded, or of how many digits
of a binary64 number a decimal keeps. The standard arithmetic obeys both.
-/

namespace Reshape

/-- Whether a decimal is an integer written without places. A zero may have either sign. -/
structure Decimal.IsWhole (d : Decimal) (n : Int) : Prop where
  scale : d.scale = 0
  signed : d.signed = n
  room : d.mantissa < mantissaLimit

/-- The smallest positive decimal, one unit in the last of 28 places. -/
def Decimal.smallest : Decimal := ⟨false, 1, maxScale⟩

namespace DecimalArithmetic

/-- On whole numbers the arithmetic is exact. -/
structure ExactOnWholes (decimals : DecimalArithmetic) : Prop where
  ofInt64 (n : Int64) : (decimals.ofInt64 n).IsWhole n.toInt
  add? {a b : Decimal} {m n : Int} (ha : a.IsWhole m) (hb : b.IsWhole n)
    (hroom : (m + n).natAbs < Decimal.mantissaLimit) :
    ∃ sum, decimals.add? a b = some sum ∧ sum.IsWhole (m + n)
  toInt64? {d : Decimal} {n : Int} (hd : d.IsWhole n) (k : Int64) :
    decimals.toInt64? d = some k ↔ k.toInt = n
  toFloat? {d : Decimal} {n : Int} (hd : d.IsWhole n) :
    decimals.toFloat? d = some (Binary64.ofInt n)

/-- Decimals have at most 28 places, and only places are rounded away. -/
structure KeepsPlaces (decimals : DecimalArithmetic) : Prop where
  scale_le {x : Float} {d : Decimal} (h : decimals.ofFloat? x = some d) :
    d.scale ≤ Decimal.maxScale
  roundTo_of_le {d : Decimal} {places : Nat} (h : d.scale ≤ places) : decimals.roundTo places d = d
  ofFloat?_smallest : decimals.ofFloat? 1e-28 = some .smallest
  toFloat?_smallest : ∃ x, decimals.toFloat? .smallest = some x ∧ x ≠ 0
  /-- To fewer than 28 places the smallest decimal is zero. -/
  toFloat?_roundTo_smallest {places : Nat} (h : places < Decimal.maxScale) :
    decimals.toFloat? (decimals.roundTo places .smallest) = some 0

end DecimalArithmetic

/-! ## Whole numbers -/

namespace Decimal

theorem isWhole_zero : zero.IsWhole 0 := ⟨rfl, rfl, by decide⟩

theorem signed_ofInt (n : Int) : (ofInt n).signed = n := by
  simp only [signed, ofInt, decide_eq_true_eq]
  split <;> omega

theorem isWhole_ofInt {n : Int} (hroom : n.natAbs < mantissaLimit) : (ofInt n).IsWhole n :=
  ⟨rfl, signed_ofInt n, hroom⟩

theorem divEven_one (n : Nat) : Binary64.divEven n 1 = n := by
  simp [Binary64.divEven, Nat.mod_one]

/-- A whole number that has room needs no place given up. -/
theorem fit?_zero (negative : Bool) {m : Nat} (hroom : m < mantissaLimit) :
    fit? negative m 0 = some ⟨negative, m, 0⟩ := by
  have hunit : tenTo 0 = 1 := rfl
  simp [fit?, hunit, divEven_one, hroom]

section IsWhole

variable {a b : Decimal} {m n : Int}

theorem IsWhole.eq_zero_of_mantissa (h : a.IsWhole m) (hzero : a.mantissa = 0) : m = 0 := by
  rw [← h.signed, Decimal.signed, hzero]
  exact ite_self 0

/-- Whole decimals add up as integers do, as long as the sum has room. -/
theorem IsWhole.add? (ha : a.IsWhole m) (hb : b.IsWhole n)
    (hroom : (m + n).natAbs < mantissaLimit) :
    ∃ sum, a.add? b = some sum ∧ sum.IsWhole (m + n) := by
  rw [Decimal.add?]
  split
  · next hm =>
    refine ⟨b, rfl, ?_⟩
    rwa [ha.eq_zero_of_mantissa hm, Int.zero_add]
  split
  · next hn =>
    refine ⟨a, rfl, ?_⟩
    rwa [hb.eq_zero_of_mantissa hn, Int.add_zero]
  have hsum : a.signed * (tenTo 0 : Nat) + b.signed * (tenTo 0 : Nat) = m + n := by
    rw [ha.signed, hb.signed, show ((tenTo 0 : Nat) : Int) = 1 from rfl, Int.mul_one, Int.mul_one]
  refine ⟨ofInt (m + n), ?_, isWhole_ofInt hroom⟩
  simp only [ha.scale, hb.scale, Nat.max_self, Nat.sub_self, hsum]
  exact fit?_zero _ hroom

/-- A whole decimal is read as its integer, if that fits in 64 bits. -/
theorem IsWhole.toInt64?_eq_some_iff (h : a.IsWhole m) {k : Int64} :
    a.toInt64? = some k ↔ k.toInt = m := by
  have hwhole : (if a.negative then -((a.mantissa / tenTo a.scale : Nat) : Int)
      else (a.mantissa / tenTo a.scale : Nat)) = m := by
    rw [h.scale, show tenTo 0 = 1 from rfl, Nat.div_one]
    exact h.signed
  unfold toInt64?
  dsimp only
  rw [hwhole]
  constructor
  · intro hk
    split at hk
    · next hfits =>
      rw [← Option.some_inj.1 hk]
      exact Int64.toInt_ofInt_of_le hfits.1 (Int.lt_add_one_of_le hfits.2)
    · cases hk
  · rintro rfl
    rw [if_pos ⟨k.le_toInt, Int.le_of_lt_add_one k.toInt_lt⟩, Int64.ofInt_toInt]

theorem IsWhole.toFloat (h : a.IsWhole m) : a.toFloat = Binary64.ofInt m := by
  rw [Decimal.toFloat, if_pos h.scale, h.signed]

end IsWhole

end Decimal

theorem DecimalArithmetic.standard_exactOnWholes : standard.ExactOnWholes where
  ofInt64 n := by
    refine Decimal.isWhole_ofInt ?_
    have := n.le_toInt
    have := n.toInt_lt
    have hlimit : Decimal.mantissaLimit = 2 ^ 96 := rfl
    omega
  add? ha hb hroom := ha.add? hb hroom
  toInt64? hd _ := hd.toInt64?_eq_some_iff
  toFloat? hd := congrArg some hd.toFloat

/-! ## Places -/

namespace Scientific

/-- Giving up places raises the power by one each, unless the number becomes zero. -/
theorem power_lower (count : Nat) (d : Scientific) :
    (d.lower count).power = 0 ∨ (d.lower count).power = d.power + count := by
  induction count generalizing d with
  | zero => exact .inr (Int.add_zero _).symm
  | succ count ih =>
    rw [lower]
    split
    · exact .inl rfl
    · rcases ih d.dropPlace with hzero | hpower
      · exact .inl hzero
      · refine .inr (hpower.trans ?_)
        change d.power + 1 + count = d.power + (count + 1 : Nat)
        omega

/-- Enough places are given up for a limit. -/
theorem neg_le_power_lower (limit : Nat) (d : Scientific) :
    -(limit : Int) ≤ (d.lower (-(limit : Int) - d.power).toNat).power := by
  rcases d.power_lower (-(limit : Int) - d.power).toNat with hzero | hpower <;> omega

theorem power_le_trim (limit count : Nat) (d : Scientific) :
    d.power ≤ (d.trim limit count).power := by
  induction count generalizing d with
  | zero => exact Int.le_refl _
  | succ count ih =>
    rw [trim]
    split
    · exact Int.le_trans (Int.le_add_one (Int.le_refl _)) (ih d.dropPlace)
    · exact Int.le_refl _

theorem power_le_strip (count : Nat) (d : Scientific) : d.power ≤ (d.strip count).power := by
  induction count generalizing d with
  | zero => exact Int.le_refl _
  | succ count ih =>
    rw [strip]
    split
    · exact Int.le_trans (Int.le_add_one (Int.le_refl _)) (ih ⟨d.digits / 10, d.power + 1⟩)
    · exact Int.le_refl _

end Scientific

/-- A binary64 number becomes a decimal of at most 28 places. -/
theorem Decimal.scale_le_maxScale {x : Float} {d : Decimal} (h : ofFloat? x = some d) :
    d.scale ≤ maxScale := by
  unfold ofFloat? at h
  split at h
  · cases h
  · split at h
    · cases h
      exact Nat.zero_le _
    · obtain ⟨doubled, -, h⟩ := Option.bind_eq_some_iff.1 h
      obtain ⟨raised, -, h⟩ := Option.bind_eq_some_iff.1 h
      cases h
      -- Places are given up until 28 are left, and the two steps behind that add none.
      refine Int.toNat_le.2 (Int.neg_le_of_neg_le ?_)
      calc -(maxScale : Int)
        _ ≤ (raised.lower (-maxScale - raised.power).toNat).power :=
          raised.neg_le_power_lower maxScale
        _ ≤ _ := Scientific.power_le_trim ..
        _ ≤ _ := Scientific.power_le_strip ..

theorem DecimalArithmetic.standard_keepsPlaces : standard.KeepsPlaces where
  scale_le h := Decimal.scale_le_maxScale h
  roundTo_of_le h := if_pos h
  ofFloat?_smallest := by decide +kernel
  toFloat?_smallest := ⟨_, rfl, by decide +kernel⟩
  toFloat?_roundTo_smallest := by
    have hzero : ∀ places < Decimal.maxScale,
        (Decimal.smallest.roundTo places).toFloat = 0 := by decide +kernel
    intro places h
    exact congrArg some (hzero places h)

end Reshape
