import Reshape.Binary64.Order
import Mathlib

/-!
# The bits of a binary64 number

A number is its sign and its magnitude: the magnitude is what the remaining 63 bits are as a natural
number, and every magnitude up to that of infinity is some number's (`magnitude_ofMagnitude`,
`eq_of_magnitude`). Beyond it lie the NaNs, of which only one is kept.
-/

namespace Reshape.Binary64

open Float.Model Float.Model.UnpackedFloat

theorem toNat_exponentField (b : BitVec 64) :
    (@unpackExponent .binary64 b).toNat = b.toNat / 2 ^ 52 % 2 ^ 11 := by
  simp [unpackExponent, Nat.shiftRight_eq_div_pow]

theorem toNat_significandField (b : BitVec 64) :
    (@unpackMantissa .binary64 b).toNat = b.toNat % 2 ^ 52 := by
  simp [unpackMantissa]

/-- Bits with a magnitude up to that of infinity encode no NaN. -/
theorem isNaNBits_eq_false {b : BitVec 64} (h : b.toNat % signBit ≤ infinityMagnitude) :
    @isNaNBits .binary64 b = false := by
  have hexponent := toNat_exponentField b
  have hsignificand := toNat_significandField b
  refine decide_eq_false fun ⟨hones, hnonzero⟩ => hnonzero ?_
  have hones : (@unpackExponent .binary64 b).toNat = 2047 := by
    rw [hones]
    rfl
  apply BitVec.eq_of_toNat_eq
  change (@unpackMantissa .binary64 b).toNat = 0
  simp only [signBit, infinityMagnitude, hiddenBit] at h
  omega

/-- Such bits survive being read and written again. -/
theorem toBits_ofBits {bits : UInt64} (h : bits.toNat % signBit ≤ infinityMagnitude) :
    (Float.ofBits bits).toBits = bits := by
  have hpack := @pack_unpack .binary64 bits.toBitVec (by decide)
  rw [isNaNBits_eq_false h, if_neg Bool.false_ne_true] at hpack
  exact congrArg UInt64.ofBitVec hpack

theorem toBits_ofMagnitude {m : Nat} (negative : Bool) (h : m ≤ infinityMagnitude) :
    (ofMagnitude negative m).toBits.toNat = if negative then signBit + m else m := by
  have hlimit : infinityMagnitude < signBit := by decide
  have hfits : (if negative then signBit + m else m) < 2 ^ 64 := by
    have : signBit + signBit = 2 ^ 64 := by decide
    split <;> omega
  rw [ofMagnitude, toBits_ofBits, UInt64.toNat_ofNat_of_lt' hfits]
  rw [UInt64.toNat_ofNat_of_lt' hfits]
  cases negative
  · rwa [if_neg Bool.false_ne_true, Nat.mod_eq_of_lt (by omega)]
  · rwa [if_pos rfl, Nat.add_mod_left, Nat.mod_eq_of_lt (by omega)]

@[simp]
theorem magnitude_ofMagnitude {m : Nat} (negative : Bool) (h : m ≤ infinityMagnitude) :
    magnitude (ofMagnitude negative m) = m := by
  have hlimit : infinityMagnitude < signBit := by decide
  rw [magnitude, toBits_ofMagnitude negative h]
  cases negative
  · rw [if_neg Bool.false_ne_true, Nat.mod_eq_of_lt (by omega)]
  · rw [if_pos rfl, Nat.add_mod_left, Nat.mod_eq_of_lt (by omega)]

@[simp]
theorem isNegative_ofMagnitude {m : Nat} (negative : Bool) (h : m ≤ infinityMagnitude) :
    isNegative (ofMagnitude negative m) = negative := by
  have hlimit : infinityMagnitude < signBit := by decide
  rw [isNegative, toBits_ofMagnitude negative h]
  cases negative
  · simp; omega
  · simp

theorem toNat_toBits (x : Float) :
    x.toBits.toNat = if isNegative x then signBit + magnitude x else magnitude x := by
  have hlimit : x.toBits.toNat < 2 ^ 64 := x.toBits.toNat_lt
  by_cases h : signBit ≤ x.toBits.toNat
  · rw [if_pos (by simpa [isNegative] using h), magnitude]
    simp only [signBit] at h ⊢
    omega
  · rw [if_neg (by simpa [isNegative] using h), magnitude, Nat.mod_eq_of_lt (by omega)]

/-- A number is its sign and its magnitude. -/
theorem eq_of_magnitude {x y : Float} (hsign : isNegative x = isNegative y)
    (hsize : magnitude x = magnitude y) : x = y := by
  apply Float.toBits_inj.1
  apply UInt64.toNat_inj.1
  rw [toNat_toBits, toNat_toBits, hsign, hsize]

theorem isNaN_of_isFinite {x : Float} (h : isFinite x = true) : isNaN x = false := by
  simp only [isFinite, isNaN, decide_eq_true_eq, decide_eq_false_iff_not] at h ⊢
  omega

theorem totalPlace_injective {x y : Float} (h : totalPlace x = totalPlace y) : x = y := by
  simp only [totalPlace] at h
  cases hx : isNegative x <;> cases hy : isNegative y <;>
    simp only [hx, hy, if_true, if_false, Bool.false_eq_true] at h
  · exact eq_of_magnitude (hx.trans hy.symm) (by omega)
  · omega
  · omega
  · exact eq_of_magnitude (hx.trans hy.symm) (by omega)

end Reshape.Binary64
