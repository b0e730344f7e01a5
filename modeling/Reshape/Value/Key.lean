import Reshape.Value.Basic

/-!
# Keys

A key says where a query reads or writes: a field of an object by name, or an element of an array
by position. In an object selector both are written as field names; a name that is a whole decimal
number within 64 bits stands for a position.
-/

namespace Reshape

/-- The value of decimal digits read after `acc`, or none at the first character that is no ASCII
digit. -/
def digitsValue? (acc : Nat) : List Char → Option Nat
  | [] => some acc
  | c :: cs => if c.isDigit then digitsValue? (10 * acc + (c.toNat - '0'.toNat)) cs else none

/-- The integer a text denotes: an optional sign and one or more ASCII digits, leading zeros
allowed, within 64 bits. -/
def int64OfText? (text : String) : Option Int64 :=
  let read (negative : Bool) (digits : List Char) : Option Int64 :=
    if digits.isEmpty then none
    else
      (digitsValue? 0 digits).bind fun n =>
        let value : Int := if negative then -(n : Int) else n
        if Int64.minValue.toInt ≤ value ∧ value ≤ Int64.maxValue.toInt then
          some (Int64.ofInt value)
        else none
  match text.toList with
  | '+' :: digits => read false digits
  | '-' :: digits => read true digits
  | digits => read false digits

/-- A field of an object or an element of an array. -/
inductive Key where
  | name (text : String)
  | position (n : Int64)
deriving DecidableEq, Inhabited

namespace Key

/-- Text that denotes a 64-bit integer is a position, any other text a name. -/
def ofText (text : String) : Key :=
  match int64OfText? text with
  | some n => .position n
  | none => .name text

/-- A name as it is, a position in decimal. -/
def text : Key → String
  | .name text => text
  | .position n => toString n.toInt

end Key

/-- The field or element that a key names. -/
def Value.index? (v : Value) : Key → Option Value
  | .name name => v.get? name
  | .position n => v.at? n

end Reshape
