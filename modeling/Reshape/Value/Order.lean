import Reshape.Binary64.Order
import Reshape.Value.Basic

/-!
# Equality and order of values

Three comparisons of values serve three purposes.

* `Value.equal`: integers and binary64 numbers are equal when the integer, made binary64, equals
  the other number; objects are equal whatever the order of their fields.
* `Value.compare?`: the order predicates and extremes use. It is defined within a kind only, on
  numbers, strings, booleans and null.
* `compareForSort`: a comparison of everything, absent values included, that sorting uses. Kinds
  that do not compare are told apart by their rank; arrays are ties among themselves, and so are
  objects.
-/

namespace Reshape

namespace Value

mutual

/-- Whether two values hold the same data. -/
def equal : Value → Value → Bool
  | .null, .null => true
  | .bool a, .bool b => a == b
  | .int a, .int b => a == b
  | .float a, .float b => Binary64.equal a b
  | .int a, .float b => Binary64.equal (floatOfInt a) b
  | .float a, .int b => Binary64.equal (floatOfInt b) a
  | .string a, .string b => a == b
  | .array a, .array b => equalItems a b
  | .object a, .object b => a.length == b.length && equalFields a b
  | _, _ => false

/-- Item by item, lengths included. -/
def equalItems : List Value → List Value → Bool
  | [], [] => true
  | a :: as, b :: bs => equal a b && equalItems as bs
  | _, _ => false

/-- Whether every field on the left has an equal field of its name on the right. -/
def equalFields : List (String × Value) → List (String × Value) → Bool
  | [], _ => true
  | (name, a) :: rest, fields =>
    (match fields.lookup name with
      | some b => equal a b
      | none => false) && equalFields rest fields

end

/-- The order within a kind: numbers by value, strings by code point, false before true. Two
integers compare exactly, a mixed pair as binary64. -/
def compare? : Value → Value → Option Ordering
  | .int a, .int b => some (compare a.toInt b.toInt)
  | .float a, .float b => Binary64.compare? a b
  | .int a, .float b => Binary64.compare? (floatOfInt a) b
  | .float a, .int b => Binary64.compare? a (floatOfInt b)
  | .string a, .string b => some (compare a b)
  | .bool a, .bool b => some (compare a.toNat b.toNat)
  | .null, .null => some .eq
  | _, _ => none

/-- The rank of a kind in sorting; an absent value comes before all others. -/
def rank : Option Value → Nat
  | none => 0
  | some .null => 1
  | some (.bool _) => 2
  | some (.int _) | some (.float _) => 3
  | some (.string _) => 4
  | some (.array _) => 5
  | some (.object _) => 6

end Value

/-- The comparison used for sorting. -/
def compareForSort : Option Value → Option Value → Ordering
  | some (.bool a), some (.bool b) => compare a.toNat b.toNat
  | some (.int a), some (.int b) => compare a.toInt b.toInt
  | some (.int a), some (.float b) => Binary64.totalCompare (Value.floatOfInt a) b
  | some (.float a), some (.int b) => Binary64.totalCompare a (Value.floatOfInt b)
  | some (.float a), some (.float b) => Binary64.totalCompare a b
  | some (.string a), some (.string b) => compare a b
  | a, b => compare (Value.rank a) (Value.rank b)

end Reshape
