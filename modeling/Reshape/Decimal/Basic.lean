/-!
# Decimal numbers

A decimal is a sign, a mantissa below `2 ^ 96` and a scale of at most 28, and stands for `±
mantissa / 10 ^ scale`. Totals and rounding only need a few operations on decimals, which
`DecimalArithmetic` lists. Which arithmetic is at work is left open: whatever computes with decimals
is given one, and what is proved about it names the laws that it takes.
-/

namespace Reshape

/-- `± mantissa / 10 ^ scale`. -/
structure Decimal where
  negative : Bool
  mantissa : Nat
  scale : Nat
deriving DecidableEq, Inhabited

namespace Decimal

/-- Mantissas lie below this: they have 96 bits. -/
def mantissaLimit : Nat := 1 <<< 96

/-- The largest number of places behind the point. -/
def maxScale : Nat := 28

def zero : Decimal := ⟨false, 0, 0⟩

/-- The mantissa with its sign. -/
def signed (d : Decimal) : Int := if d.negative then -(d.mantissa : Int) else d.mantissa

end Decimal

/-- The operations on decimals that totals and rounding use. -/
structure DecimalArithmetic where
  ofInt64 : Int64 → Decimal
  /-- The decimal for a binary64 number; none when it is not finite or too large. -/
  ofFloat? : Float → Option Decimal
  /-- The sum; none when it is too large. -/
  add? : Decimal → Decimal → Option Decimal
  /-- The decimal rounded to a number of places, a half going away from zero. -/
  roundTo : Nat → Decimal → Decimal
  toFloat? : Decimal → Option Float
  /-- The integer part, when it fits in 64 bits. -/
  toInt64? : Decimal → Option Int64

end Reshape
