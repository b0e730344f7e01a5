import Reshape.Binary64.Basic

/-!
# Whole numbers among binary64 numbers

Which numbers are whole, and the four ways to a neighbouring whole number: toward zero, down, up,
and to the nearest with a half going away from zero. A non-finite number is not whole and stays as
it is.
-/

namespace Reshape.Binary64

/-- The whole part of `|x|` for a finite `x`. -/
def wholePart (x : Float) : Nat :=
  (significand x <<< (exponent x).toNat) >>> (-exponent x).toNat

/-- Whether `x` is a whole number. -/
def isWhole (x : Float) : Bool :=
  isFinite x && significand x % (1 <<< (-exponent x).toNat) == 0

/-- The integer left when the fraction of a finite `x` is dropped. -/
def truncate (x : Float) : Int :=
  if isNegative x then -(wholePart x : Int) else wholePart x

/-- The largest whole number that is at most `x`. -/
def floor (x : Float) : Float :=
  if isWhole x || !isFinite x then x
  else ofFraction (isNegative x) (if isNegative x then wholePart x + 1 else wholePart x) 1

/-- The smallest whole number that is at least `x`. -/
def ceil (x : Float) : Float :=
  if isWhole x || !isFinite x then x
  else ofFraction (isNegative x) (if isNegative x then wholePart x else wholePart x + 1) 1

/-- The whole number nearest to `x`, a half going away from zero. -/
def round (x : Float) : Float :=
  if isWhole x || !isFinite x then x
  else
    let doubled := ((2 * significand x) <<< (exponent x).toNat) >>> (-exponent x).toNat
    ofFraction (isNegative x) ((doubled + 1) / 2) 1

end Reshape.Binary64
