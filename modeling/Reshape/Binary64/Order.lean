import Reshape.Binary64.Basic

/-!
# Two orders of binary64 numbers

The arithmetic order (`compare?`) leaves NaN unordered and puts the two zeros at one place. The
total order (`totalCompare`) separates the zeros, `-0.0` first, and puts NaN last. A NaN with the
sign bit set would come first, but a `Float` has none: a total that is infinity minus infinity is
sorted behind all numbers here, where a machine that keeps the sign sorts it in front of them. Both
orders are read off integers, so their laws are laws of `Int`.
-/

namespace Reshape.Binary64

/-- The place of a number on a line of integers, both zeros at `0`. -/
def place (x : Float) : Int :=
  if isNegative x then -(magnitude x : Int) else magnitude x

/-- The arithmetic order; a NaN is unordered with everything. -/
def compare? (x y : Float) : Option Ordering :=
  if isNaN x || isNaN y then none else some (compare (place x) (place y))

/-- Arithmetic equality: `0.0` equals `-0.0`, and a NaN equals nothing. -/
def equal (x y : Float) : Bool := compare? x y == some .eq

/-- The place of a number on a line of integers with `-0.0` just below `0.0`. -/
def totalPlace (x : Float) : Int :=
  if isNegative x then -(magnitude x : Int) - 1 else magnitude x

/-- A total order of all binary64 numbers, NaN included. -/
def totalCompare (x y : Float) : Ordering := compare (totalPlace x) (totalPlace y)

end Reshape.Binary64
