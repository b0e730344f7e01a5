/-!
# Binary64 numbers, taken apart and put together

A finite binary64 number is `± significand · 2 ^ exponent` with natural `significand`. This module
reads the three parts off the 64 bits of a `Float` and goes the other way: `nearestMagnitude` rounds
any nonnegative fraction to the closest binary64 number, ties to the even significand. Everything
is exact arithmetic on `Nat` and `Int`, so no statement about a result rests on how a machine
computes.

The exponent field and the significand field sit side by side, so the magnitude of a number, read
as one natural number, counts the binary64 numbers between zero and it. Rounding up past the end of
a significand therefore carries into the exponent by plain addition, and past the last finite
number it reaches infinity.

There is one NaN, and its sign bit is clear. A machine has many: the sum of infinity and minus
infinity may come with the sign bit set. `Float` does not keep them apart, so what depends on the
sign of a NaN is not said here.
-/

namespace Reshape.Binary64

/-- The weight of the sign bit, `2 ^ 63`. -/
def signBit : Nat := 0x8000000000000000

/-- The weight of the bit that normal numbers have but do not store, `2 ^ 52`: the least significand
of full length, and the number of significands that share an exponent. -/
def hiddenBit : Nat := 0x10000000000000

/-- The 63 bits below the sign bit: the position of `|x|` among the nonnegative numbers. -/
def magnitude (x : Float) : Nat := x.toBits.toNat % signBit

/-- Whether the sign bit is set; true of `-0.0`, and not of NaN. -/
def isNegative (x : Float) : Bool := signBit ≤ x.toBits.toNat

/-- The magnitude of infinity; every finite number lies below it and every NaN above. -/
def infinityMagnitude : Nat := 0x7ff * hiddenBit

def isFinite (x : Float) : Bool := magnitude x < infinityMagnitude

def isNaN (x : Float) : Bool := infinityMagnitude < magnitude x

/-- The number with the given sign and magnitude. -/
def ofMagnitude (negative : Bool) (magnitude : Nat) : Float :=
  Float.ofBits (UInt64.ofNat (if negative then signBit + magnitude else magnitude))

/-- `|x| = significand x · 2 ^ exponent x` for every finite `x`. Subnormal numbers have no hidden
bit and share the exponent of the smallest normal ones. -/
def significand (x : Float) : Nat :=
  if magnitude x < hiddenBit then magnitude x else hiddenBit + magnitude x % hiddenBit

@[inherit_doc significand]
def exponent (x : Float) : Int :=
  (max 1 (magnitude x / hiddenBit) : Nat) - 1075

/-- `|x|`. -/
def abs (x : Float) : Float := ofMagnitude false (magnitude x)

/-! ## Rounding a fraction -/

/-- The quotient rounded to the nearest natural number, a tie to the even one. -/
def divEven (num den : Nat) : Nat :=
  let quotient := num / den
  let twice := 2 * (num % den)
  if twice < den || (twice == den && quotient % 2 == 0) then quotient else quotient + 1

/-- `num · 2 ^ (-e) / den`, rounded to the nearest natural number. -/
def scaledDivEven (num den : Nat) (e : Int) : Nat :=
  divEven (num <<< (-e).toNat) (den <<< e.toNat)

/-- The unit in the last place of `num / den`: the exponent at which the quotient has 53 bits, or
the smallest exponent there is. The first guess, from bit lengths alone, can be one too small. -/
def unitExponent (num den : Nat) : Int :=
  let guess : Int := (Nat.log2 num : Int) - Nat.log2 den - 53
  let fits := (num <<< (-guess).toNat) / (den <<< guess.toNat) < 2 * hiddenBit
  max (-1074) (if fits then guess else guess + 1)

/-- The magnitude of the binary64 number nearest to `num / den`; infinity when that is past the
last finite number. -/
def nearestMagnitude (num den : Nat) : Nat :=
  if num = 0 then 0
  else
    let e := unitExponent num den
    min infinityMagnitude ((e + 1074).toNat * hiddenBit + scaledDivEven num den e)

/-- The binary64 number nearest to `± num / den`. -/
def ofFraction (negative : Bool) (num den : Nat) : Float :=
  ofMagnitude negative (nearestMagnitude num den)

/-- The binary64 number nearest to an integer. -/
def ofInt (n : Int) : Float := ofFraction (n < 0) n.natAbs 1

end Reshape.Binary64
