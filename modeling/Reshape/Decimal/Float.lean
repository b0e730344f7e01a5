import Reshape.Binary64.Order
import Reshape.Binary64.Whole
import Reshape.Decimal.Sum

/-!
# Between binary64 and decimal

`ofFloat?` turns the binary64 number `bits · 2 ^ e` into a decimal by trading the factor `2 ^ e`
for `10 ^ e · 5 ^ (-e)` one step at a time inside 96 bits, then keeping about as many digits as
binary64 tells apart (a mantissa below `2 ^ 52`). So `0.1` becomes exactly one tenth, and decimal
sums of such numbers come out as written. `toFloat` goes back: the integer part and the fraction
are made binary64 apart, and the sum is rounded to the places the decimal has.

With the two conversions the arithmetic is complete (`DecimalArithmetic.standard`).
-/

namespace Reshape

namespace Decimal

/-- Removes `halvings` factors of one half, each as a tenth and a factor five where it fits. -/
def halve : Nat → Scientific → Scientific
  | 0, d => d
  | halvings + 1, d =>
    if d.digits % 2 = 0 ∨ mantissaLimit ≤ d.digits * 5 then
      halve halvings ⟨d.digits / 2, d.power + 1⟩
    else halve halvings ⟨d.digits * 5, d.power⟩

/-- Removes `doublings` factors of two, each as ten divided by five. None when the number is too
large to be a decimal. -/
def double? : Nat → Scientific → Option Scientific
  | 0, d => some d
  | doublings + 1, d =>
    if d.digits * 2 < mantissaLimit then double? doublings ⟨d.digits * 2, d.power - 1⟩
    else if (doublings + 1 : Int) < d.power * 2 then none
    else double? doublings ⟨d.digits / 5, d.power⟩

/-- Multiplies by ten `count` times, as long as the mantissa fits. -/
def raise? : Nat → Scientific → Option Scientific
  | 0, d => some d
  | count + 1, d =>
    if d.digits * 10 < mantissaLimit then raise? count ⟨d.digits * 10, d.power - 1⟩ else none

/-- The decimal closest in digits to a binary64 number; none when the number is not finite or too
large. -/
def ofFloat? (x : Float) : Option Decimal :=
  if !Binary64.isFinite x then none
  else if Binary64.magnitude x = 0 then some zero
  else do
    let e := Binary64.exponent x
    let d := halve (-e).toNat ⟨Binary64.significand x, e⟩
    let d ← double? e.toNat d
    let d ← raise? d.power.toNat d
    let d := d.lower (-maxScale - d.power).toNat
    let d := d.trim Binary64.hiddenBit (-d.power).toNat
    let d := d.strip (-d.power).toNat
    return ⟨Binary64.isNegative x, d.digits, (-d.power).toNat⟩

/-- `10 ^ n` in binary64, by repeated squaring; `bits` bounds the length of `n`. -/
def powerOfTen : (bits : Nat) → (n : Nat) → (product square : Float) → Float
  | 0, _, product, _ => product
  | bits + 1, n, product, square =>
    let product := if n % 2 = 1 then product * square else product
    if n / 2 = 0 then product else powerOfTen bits (n / 2) product (square * square)

/-- The binary64 number nearest to a natural number. -/
def floatOfNat (n : Nat) : Float := Binary64.ofFraction false n 1

/-- The binary64 number of a decimal. -/
def toFloat (d : Decimal) : Float :=
  if d.scale = 0 then Binary64.ofInt d.signed
  else
    let unit := tenTo d.scale
    let whole := floatOfNat (d.mantissa / unit)
    let fraction := floatOfNat (d.mantissa % unit) / floatOfNat unit
    let size :=
      if Binary64.equal fraction 0 then whole
      else
        let power := powerOfTen 5 d.scale 1 10
        Binary64.round ((whole + fraction) * power) / power
    if d.negative then -size else size

example : ofFloat? 0.1 = some ⟨false, 1, 1⟩ := by decide +kernel

example : ofFloat? (-2.5e20) = some ⟨true, 250000000000000000000, 0⟩ := by decide +kernel

example : ofFloat? 1e29 = none := by decide +kernel

example : toFloat ⟨true, 25, 1⟩ = -2.5 := by decide +kernel

end Decimal

/-- The arithmetic that the standard vocabulary computes with. -/
def DecimalArithmetic.standard : DecimalArithmetic where
  ofInt64 n := .ofInt n.toInt
  ofFloat? := Decimal.ofFloat?
  add? := Decimal.add?
  roundTo := Decimal.roundTo
  toFloat? d := some d.toFloat
  toInt64? := Decimal.toInt64?

end Reshape
