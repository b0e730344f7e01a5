import Reshape.Decimal.Basic
import Reshape.Value.Order

/-!
# Aggregations

What a name can mean on a field of a grouped output. `Aggregation.group` only makes the field part
of the key that records are grouped by. `Aggregation.fold` replaces the field by one value for the
whole group, computed by an `Accumulator`: started afresh for each group, fed the group's values in
order of arrival, and asked for its result at the end. A fold that an application adds is known by
its results.
-/

namespace Reshape

/-- A way to make one value out of many. -/
inductive Fold where
  /-- The total, kept in decimals. -/
  | sum (decimals : DecimalArithmetic)
  | values
  | count
  | avg (decimals : DecimalArithmetic)
  | min
  | max
  | first
  | last
  /-- A fold that an application adds, by its result for the values in order of arrival. -/
  | custom (result : List Value → Value)
deriving Inhabited

/-- What an aggregation directive does with its field. -/
inductive Aggregation where
  | group
  | fold (f : Fold)
deriving Inhabited

/-- The name of a directive in messages. -/
def Aggregation.text : Aggregation → String
  | .group => "GroupBy"
  | .fold _ => "Fold(..)"

/-- A running total. The decimal total is exact and makes `0.1 + 0.2` come out as `0.3`; once a
number or a sum has no decimal it is gone, and the binary64 total, which is always kept, takes its
place. -/
structure Total where
  exact : Option Decimal
  approximate : Float
  /-- Whether a binary64 number was added. -/
  hasFloat : Bool

namespace Total

variable (decimals : DecimalArithmetic)

def zero : Total := ⟨some Decimal.zero, 0, false⟩

/-- Adds a number given both ways. -/
def push (t : Total) (exact : Option Decimal) (approximate : Float) : Total :=
  { t with
    exact := t.exact.bind fun total => exact.bind fun n => decimals.add? total n
    approximate := t.approximate + approximate }

/-- Adds a value; what is no number is passed over. -/
def add (t : Total) : Value → Total
  | .int n => t.push decimals (some (decimals.ofInt64 n)) (Value.floatOfInt n)
  | .float x => { t.push decimals (decimals.ofFloat? x) x with hasFloat := true }
  | _ => t

/-- The total as binary64. -/
def toFloat (t : Total) : Float := (t.exact.bind decimals.toFloat?).getD t.approximate

/-- The total as a value: an integer as long as only integers were added and it fits in 64 bits. -/
def toValue (t : Total) : Value :=
  if t.hasFloat then .float (t.toFloat decimals)
  else
    match t.exact.bind decimals.toInt64? with
    | some n => .int n
    | none => .float (t.toFloat decimals)

end Total

/-- The state of a fold. -/
inductive Accumulator where
  | sum (decimals : DecimalArithmetic) (total : Total)
  /-- The values so far, last first. -/
  | values (collected : List Value)
  | count (n : Nat)
  | avg (decimals : DecimalArithmetic) (total : Total) (n : Nat)
  /-- The best value so far; a new one replaces it when it compares to it as `keep` says. -/
  | extreme (keep : Ordering) (best : Option Value)
  | first (value : Option Value)
  | last (value : Option Value)
  /-- The values so far, last first, of a fold with such results. -/
  | custom (result : List Value → Value) (fed : List Value)

/-- The state before any value. -/
def Fold.start : Fold → Accumulator
  | .sum decimals => .sum decimals .zero
  | .values => .values []
  | .count => .count 0
  | .avg decimals => .avg decimals .zero 0
  | .min => .extreme .lt none
  | .max => .extreme .gt none
  | .first => .first none
  | .last => .last none
  | .custom result => .custom result []

namespace Accumulator

/-- Feeds one value. -/
def add : Accumulator → Value → Accumulator
  | .sum decimals total, v => .sum decimals (total.add decimals v)
  | .values collected, v => .values (v :: collected)
  | .count n, _ => .count (n + 1)
  | .avg decimals total n, v =>
    if v.isNumber then .avg decimals (total.add decimals v) (n + 1) else .avg decimals total n
  | .extreme keep none, v => .extreme keep (some v)
  | .extreme keep (some best), v =>
    .extreme keep (some (if Value.compare? v best = some keep then v else best))
  | .first none, v => .first (some v)
  | .first (some value), _ => .first (some value)
  | .last _, v => .last (some v)
  | .custom result fed, v => .custom result (v :: fed)

/-- The result for the values fed so far. -/
def get : Accumulator → Value
  | .sum decimals total => total.toValue decimals
  | .values collected => .array collected.reverse
  | .count n => .int (Int64.ofNat n)
  | .avg decimals total n =>
    if n = 0 then .null else .float (total.toFloat decimals / Binary64.ofInt n)
  | .extreme _ best => best.getD .null
  | .first value => value.getD .null
  | .last value => value.getD .null
  | .custom result fed => result fed.reverse

end Accumulator

/-- The result of a fold over some values. -/
def Fold.run (f : Fold) (values : List Value) : Value := (values.foldl Accumulator.add f.start).get

end Reshape
