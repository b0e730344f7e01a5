import Reshape.Binary64.Order
import Reshape.Proofs.Binary64.Bits
import Reshape.Proofs.Binary64.Spacing

/-!
# Whole numbers rounded to binary64

`nearestMagnitude` finds the magnitude that a whole number reads as, for all whole numbers within 64
bits (`isNearest_nearestMagnitude`). Therefore integers made binary64 keep their sign and their
order, and are always finite.
-/

namespace Reshape.Binary64

/-- A rounded quotient is at most one half away, and one half only if it is even. -/
theorem divEven_bounds (num : Nat) {den : Nat} (hden : 0 < den) :
    (2 * divEven num den * den < 2 * num + den ∨
      2 * divEven num den * den = 2 * num + den ∧ Even (divEven num den)) ∧
    (2 * num < (2 * divEven num den + 1) * den ∨
      2 * num = (2 * divEven num den + 1) * den ∧ Even (divEven num den)) := by
  have hsplit := Nat.div_add_mod' num den
  have hmod := Nat.mod_lt num hden
  have hcases : (divEven num den = num / den ∧
      (2 * (num % den) < den ∨ 2 * (num % den) = den ∧ num / den % 2 = 0)) ∨
      (divEven num den = num / den + 1 ∧
        (den < 2 * (num % den) ∨ 2 * (num % den) = den ∧ num / den % 2 = 1)) := by
    grind [divEven]
  rcases hcases with ⟨hr, h⟩ | ⟨hr, h⟩
  · have hlow : 2 * (num / den) * den = 2 * (num / den * den) := by ring
    have hhigh : (2 * (num / den) + 1) * den = 2 * (num / den * den) + den := by ring
    rw [hr, Nat.even_iff, hlow, hhigh]
    omega
  · have hlow : 2 * (num / den + 1) * den = 2 * (num / den * den) + 2 * den := by ring
    have hhigh : (2 * (num / den + 1) + 1) * den = 2 * (num / den * den) + 3 * den := by ring
    rw [hr, Nat.even_iff, hlow, hhigh]
    omega

/-- The same for the quotient itself. -/
theorem divEven_near (num : Nat) {den : Nat} (hden : 0 < den) :
    ((divEven num den : ℚ) - 1 / 2 < num / den ∨
      (divEven num den : ℚ) - 1 / 2 = num / den ∧ Even (divEven num den)) ∧
    ((num : ℚ) / den < divEven num den + 1 / 2 ∨
      (num : ℚ) / den = divEven num den + 1 / 2 ∧ Even (divEven num den)) := by
  have hden' : (0 : ℚ) < den := by exact_mod_cast hden
  obtain ⟨hlow, hhigh⟩ := divEven_bounds num hden
  constructor
  · rw [lt_div_iff₀ hden', eq_div_iff hden'.ne']
    refine hlow.imp (fun h => ?_) (fun ⟨h, heven⟩ => ⟨?_, heven⟩)
    · have : (2 * divEven num den * den : ℚ) < 2 * num + den := by exact_mod_cast h
      linarith
    · have : (2 * divEven num den * den : ℚ) = 2 * num + den := by exact_mod_cast h
      linarith
  · rw [div_lt_iff₀ hden', div_eq_iff hden'.ne']
    refine hhigh.imp (fun h => ?_) (fun ⟨h, heven⟩ => ⟨?_, heven⟩)
    · have : (2 * num : ℚ) < (2 * divEven num den + 1) * den := by exact_mod_cast h
      linarith
    · have : (2 * num : ℚ) = (2 * divEven num den + 1) * den := by exact_mod_cast h
      linarith

/-- Past the last full significand the next exponent's first one stands for the same number. -/
theorem le_halfway_at {e s : Nat} (hs : hiddenBit ≤ s) (hs' : s ≤ 2 * hiddenBit) :
    (s + 1 / 2) * 2 ^ ((e : Int) - 1074) ≤ halfway (e * hiddenBit + s) := by
  rcases Nat.lt_or_eq_of_le hs' with hlt | rfl
  · exact (halfway_at hlt (.inl hs)).ge
  · have hunit : (0 : ℚ) < 2 ^ ((e : Int) - 1074) := by positivity
    rw [show e * hiddenBit + 2 * hiddenBit = (e + 1) * hiddenBit + hiddenBit by ring,
      halfway_at (by decide) (.inl le_rfl), Nat.cast_add_one,
      show ((e : Int) + 1 - 1074) = e - 1074 + 1 by ring, zpow_add_one₀ two_ne_zero]
    push_cast
    linarith

/-- A number within half a unit of a full significand is nearest to its magnitude. -/
theorem isNearest_at {q : ℚ} {e s : Nat} (hs : hiddenBit ≤ s) (hs' : s ≤ 2 * hiddenBit)
    (hfull : hiddenBit ≤ q)
    (hlow : (s : ℚ) - 1 / 2 < q ∨ (s : ℚ) - 1 / 2 = q ∧ Even s)
    (hhigh : q < s + 1 / 2 ∨ q = s + 1 / 2 ∧ Even s) :
    IsNearest (q * 2 ^ ((e : Int) - 1074)) (e * hiddenBit + s) := by
  have hunit : (0 : ℚ) < 2 ^ ((e : Int) - 1074) := by positivity
  have heven : Even s → Even (e * hiddenBit + s) :=
    ((show Even hiddenBit by decide).mul_left e).add
  apply IsNearest.of_neighbours
  · intro k hk
    rcases Nat.lt_or_eq_of_le hs with hlt | rfl
    · obtain rfl : k = e * hiddenBit + (s - 1) := by omega
      rw [halfway_at (by omega) (.inl (by omega)), Nat.cast_sub (by omega),
        mul_lt_mul_iff_left₀ hunit, mul_left_inj' hunit.ne']
      refine hlow.imp (fun h => ?_) (fun ⟨h, h'⟩ => ⟨?_, heven h'⟩) <;> push_cast <;> linarith
    · left
      calc halfway k
          < size (e * hiddenBit + hiddenBit) := hk ▸ halfway_lt_size k
        _ = hiddenBit * 2 ^ ((e : Int) - 1074) := size_at (by decide) (.inl le_rfl)
        _ ≤ q * 2 ^ ((e : Int) - 1074) := by gcongr
  · have hnext := le_halfway_at (e := e) hs hs'
    rcases hhigh with h | ⟨h, h'⟩
    · left
      exact ((mul_lt_mul_iff_left₀ hunit).2 h).trans_le hnext
    · rcases hnext.lt_or_eq with hlt | heq
      · exact .inl (h ▸ hlt)
      · exact .inr ⟨h ▸ heq, heven h'⟩

/-! ## Whole numbers -/

/-- A whole number brought to the exponent at which it has 53 bits. -/
theorem scaled_bounds {n i j : Nat} (hn : 0 < n) (hij : n.log2 + i = 52 + j) :
    hiddenBit * 2 ^ j ≤ n * 2 ^ i ∧ n * 2 ^ i < 2 * hiddenBit * 2 ^ j := by
  have hlow : 2 ^ n.log2 ≤ n := Nat.log2_self_le hn.ne'
  have hhigh : n < 2 ^ (n.log2 + 1) := Nat.lt_log2_self
  constructor
  · calc hiddenBit * 2 ^ j
        = 2 ^ n.log2 * 2 ^ i := by rw [← Nat.pow_add, hij, Nat.pow_add]; rfl
      _ ≤ n * 2 ^ i := Nat.mul_le_mul_right _ hlow
  · calc n * 2 ^ i
        < 2 ^ (n.log2 + 1) * 2 ^ i := Nat.mul_lt_mul_of_pos_right hhigh (Nat.two_pow_pos i)
      _ = 2 * hiddenBit * 2 ^ j := by
        rw [← Nat.pow_add, show n.log2 + 1 + i = 53 + j by omega, Nat.pow_add]; rfl

/-- A whole number has 53 bits at the exponent 52 below its bit length. -/
theorem unitExponent_one {n : Nat} (hn : 0 < n) : unitExponent n 1 = (n.log2 : Int) - 52 := by
  have hfits : ¬ (n <<< (-((n.log2 : Int) - 53)).toNat) / (1 <<< ((n.log2 : Int) - 53).toNat) <
      2 * hiddenBit := by
    rw [Nat.shiftLeft_eq, Nat.one_shiftLeft, Nat.not_lt, Nat.le_div_iff_mul_le (Nat.two_pow_pos _)]
    have hbounds := (scaled_bounds (i := (-((n.log2 : Int) - 53)).toNat)
      (j := ((n.log2 : Int) - 53).toNat + 1) hn (by omega)).1
    rw [Nat.pow_succ] at hbounds
    linarith
  rw [unitExponent]
  simp only [show Nat.log2 1 = 0 by decide, Nat.cast_zero, sub_zero, if_neg hfits]
  omega

/-- A whole number in units of its last place: at least a full significand, less than two, and
rounded as the significand of its magnitude. -/
theorem exists_scaled {n : Nat} (hn : 0 < n) :
    ∃ (q : ℚ) (s : Nat), scaledDivEven n 1 (unitExponent n 1) = s ∧
      q * 2 ^ unitExponent n 1 = n ∧ hiddenBit ≤ q ∧ hiddenBit ≤ s ∧ s ≤ 2 * hiddenBit ∧
      ((s : ℚ) - 1 / 2 < q ∨ (s : ℚ) - 1 / 2 = q ∧ Even s) ∧
      (q < s + 1 / 2 ∨ q = s + 1 / 2 ∧ Even s) := by
  obtain ⟨e, he⟩ : ∃ e : Int, e = (n.log2 : Int) - 52 := ⟨_, rfl⟩
  have hbounds := scaled_bounds (i := (-e).toNat) (j := e.toNat) hn (by omega)
  have hunit : (0 : ℚ) < 2 ^ e.toNat := by positivity
  have hnear := divEven_near (n * 2 ^ (-e).toNat) (Nat.two_pow_pos e.toNat)
  rw [unitExponent_one hn, ← he, scaledDivEven, Nat.shiftLeft_eq, Nat.one_shiftLeft]
  generalize divEven (n * 2 ^ (-e).toNat) (2 ^ e.toNat) = s at hnear ⊢
  push_cast at hnear
  have hlow : (hiddenBit : ℚ) ≤ n * 2 ^ (-e).toNat / 2 ^ e.toNat := by
    rw [le_div_iff₀ hunit]
    exact_mod_cast hbounds.1
  have hhigh : (n * 2 ^ (-e).toNat / 2 ^ e.toNat : ℚ) < 2 * hiddenBit := by
    rw [div_lt_iff₀ hunit]
    exact_mod_cast hbounds.2
  have hvalue : (n * 2 ^ (-e).toNat / 2 ^ e.toNat : ℚ) * 2 ^ e = n := by
    have hsplit : e = (e.toNat : Int) - (-e).toNat := by omega
    nth_rewrite 3 [hsplit]
    rw [zpow_sub₀ two_ne_zero, zpow_natCast, zpow_natCast]
    field_simp
  generalize (n * 2 ^ (-e).toNat / 2 ^ e.toNat : ℚ) = q at hnear hlow hhigh hvalue
  refine ⟨q, s, rfl, hvalue, hlow, ?_, ?_, hnear.1, hnear.2⟩
  · have : (hiddenBit : ℚ) < s + 1 := by rcases hnear.2 with h | h <;> linarith
    have : hiddenBit < s + 1 := by exact_mod_cast this
    omega
  · have : (s : ℚ) < 2 * hiddenBit + 1 := by rcases hnear.1 with h | h <;> linarith
    have : s < 2 * hiddenBit + 1 := by exact_mod_cast this
    omega

/-- Rounding a whole number of at most 64 bits: it stays finite and gives the magnitude that the
number is nearest to. -/
theorem nearestMagnitude_spec {n : Nat} (hn : 0 < n) (hlimit : n < 2 ^ 64) :
    nearestMagnitude n 1 < infinityMagnitude ∧ IsNearest n (nearestMagnitude n 1) := by
  have hlog : n.log2 < 64 := (Nat.log2_lt hn.ne').2 hlimit
  obtain ⟨q, s, hs, hvalue, hfull, hlow, hhigh, hnear⟩ := exists_scaled hn
  have hexp : unitExponent n 1 = ((n.log2 + 1022 : Nat) : Int) - 1074 := by
    rw [unitExponent_one hn]
    omega
  have hbound : (n.log2 + 1022) * hiddenBit + s < infinityMagnitude := by
    simp only [infinityMagnitude, hiddenBit] at hhigh ⊢
    omega
  have hmagnitude : nearestMagnitude n 1 = (n.log2 + 1022) * hiddenBit + s := by
    rw [nearestMagnitude, if_neg hn.ne']
    dsimp only
    rw [hs, hexp, show ((n.log2 + 1022 : Nat) : Int) - 1074 + 1074 = (n.log2 + 1022 : Nat) by ring,
      Int.toNat_natCast]
    exact Nat.min_eq_right hbound.le
  rw [hmagnitude]
  refine ⟨hbound, ?_⟩
  rw [← hvalue, hexp]
  exact isNearest_at hlow hhigh hfull hnear.1 hnear.2

theorem nearestMagnitude_zero (den : Nat) : nearestMagnitude 0 den = 0 := if_pos rfl

theorem isNearest_nearestMagnitude {n : Nat} (hlimit : n < 2 ^ 64) :
    IsNearest n (nearestMagnitude n 1) := by
  rcases Nat.eq_zero_or_pos n with rfl | hn
  · simpa [nearestMagnitude_zero, size, significandAt, hiddenBit] using isNearest_size 0
  · exact (nearestMagnitude_spec hn hlimit).2

theorem nearestMagnitude_lt {n : Nat} (hlimit : n < 2 ^ 64) :
    nearestMagnitude n 1 < infinityMagnitude := by
  rcases Nat.eq_zero_or_pos n with rfl | hn
  · rw [nearestMagnitude_zero]
    decide
  · exact (nearestMagnitude_spec hn hlimit).1

/-- Rounding keeps the order of whole numbers, though it may join neighbours. -/
theorem nearestMagnitude_mono {m n : Nat} (hlimit : n < 2 ^ 64) (h : m ≤ n) :
    nearestMagnitude m 1 ≤ nearestMagnitude n 1 :=
  (isNearest_nearestMagnitude (h.trans_lt hlimit)).mono (isNearest_nearestMagnitude hlimit)
    (by exact_mod_cast h)

/-! ## Integers as binary64 numbers -/

section OfInt

theorem natAbs_toInt_lt (n : Int64) : n.toInt.natAbs < 2 ^ 64 := by
  have := n.toInt_lt
  have := n.le_toInt
  omega

variable {a b n : Int}

theorem magnitude_ofInt (hn : n.natAbs < 2 ^ 64) :
    magnitude (ofInt n) = nearestMagnitude n.natAbs 1 :=
  magnitude_ofMagnitude _ (nearestMagnitude_lt hn).le

theorem isNegative_ofInt (hn : n.natAbs < 2 ^ 64) : isNegative (ofInt n) = decide (n < 0) :=
  isNegative_ofMagnitude _ (nearestMagnitude_lt hn).le

theorem isFinite_ofInt (hn : n.natAbs < 2 ^ 64) : isFinite (ofInt n) = true := by
  rw [isFinite, magnitude_ofInt hn, decide_eq_true_eq]
  exact nearestMagnitude_lt hn

/-- Making integers binary64 keeps their order. -/
theorem totalPlace_ofInt_mono (ha : a.natAbs < 2 ^ 64) (hb : b.natAbs < 2 ^ 64) (h : a ≤ b) :
    totalPlace (ofInt a) ≤ totalPlace (ofInt b) := by
  simp only [totalPlace, isNegative_ofInt ha, isNegative_ofInt hb, magnitude_ofInt ha,
    magnitude_ofInt hb, decide_eq_true_eq]
  rcases lt_or_ge a 0 with hneg | hpos <;> rcases lt_or_ge b 0 with hneg' | hpos'
  · have := nearestMagnitude_mono ha (show b.natAbs ≤ a.natAbs by omega)
    rw [if_pos hneg, if_pos hneg']
    omega
  · rw [if_pos hneg, if_neg hpos'.not_gt]
    omega
  · omega
  · have := nearestMagnitude_mono hb (show a.natAbs ≤ b.natAbs by omega)
    rw [if_neg hpos.not_gt, if_neg hpos'.not_gt]
    omega

end OfInt

end Reshape.Binary64
