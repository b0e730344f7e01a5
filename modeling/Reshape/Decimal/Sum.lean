import Reshape.Binary64.Basic
import Reshape.Decimal.Basic
import Reshape.Decimal.Scientific

/-!
# Sums and places of decimals

Sums are exact as long as the mantissa has room; then digits are given up at the end, half to even,
and a sum whose integer part has no room is none.
-/

namespace Reshape.Decimal

def ofInt (n : Int) : Decimal := ⟨n < 0, n.natAbs, 0⟩

/-- `± m / 10 ^ scale` with as few places given up as the mantissa needs. -/
def fit? (negative : Bool) (m scale : Nat) : Option Decimal :=
  let dropped := (List.range (scale + 1)).find? fun k =>
    Binary64.divEven m (tenTo k) < mantissaLimit
  dropped.map fun k => ⟨negative, Binary64.divEven m (tenTo k), scale - k⟩

/-- The sum at the larger of the two scales. A zero leaves the other number as it is. -/
def add? (a b : Decimal) : Option Decimal :=
  if a.mantissa = 0 then some b
  else if b.mantissa = 0 then some a
  else
    let scale := max a.scale b.scale
    let sum := a.signed * tenTo (scale - a.scale) + b.signed * tenTo (scale - b.scale)
    fit? (sum < 0) sum.natAbs scale

/-- The nearest decimal with at most `places` places, a half going away from zero. -/
def roundTo (places : Nat) (d : Decimal) : Decimal :=
  if d.scale ≤ places then d
  else
    let unit := tenTo (d.scale - places)
    let m := (2 * d.mantissa + unit) / (2 * unit)
    ⟨d.negative && m != 0, m, places⟩

/-- The integer part, when it fits in 64 bits. -/
def toInt64? (d : Decimal) : Option Int64 :=
  let whole : Nat := d.mantissa / tenTo d.scale
  let n : Int := if d.negative then -(whole : Int) else whole
  if Int64.minValue.toInt ≤ n ∧ n ≤ Int64.maxValue.toInt then some (Int64.ofInt n) else none

end Reshape.Decimal
