import Reshape.Binary64.Whole
import Reshape.Decimal.Basic
import Reshape.Json.Printer
import Reshape.Text.Blank
import Reshape.Text.Case

/-!
# Functions of values

The functions a query can apply, built in or added by an application. They are total, because
applying a query never fails: to the built-in ones a missing argument counts as null, and one of the
wrong kind makes the result null.
-/

namespace Reshape

/-- A function from values to a value. -/
inductive Transform where
  | abs
  | uppercase
  | lowercase
  | trim
  | length
  /-- To a number of places, in decimals. -/
  | round (decimals : DecimalArithmetic)
  | floor
  | ceil
  | concat
  | default
  /-- A function that an application adds. -/
  | custom (f : List Value → Value)
deriving Inhabited

namespace Transform

/-- A whole number within 64 bits as an integer, any other number as it is. -/
def whole (x : Float) : Value :=
  if Binary64.isWhole x && (Binary64.truncate x).natAbs < 0x8000000000000000 then
    .int (Int64.ofInt (Binary64.truncate x))
  else .float x

/-- The absolute value; that of the least integer is no 64-bit integer and becomes binary64. -/
def absolute : Value → Value
  | .int n =>
    if n = Int64.minValue then .float (Binary64.abs (Value.floatOfInt n))
    else .int (Int64.ofInt n.toInt.natAbs)
  | .float x => .float (Binary64.abs x)
  | _ => .null

/-- A function of texts; other values give null. -/
def onText (f : String → String) : Value → Value
  | .string s => .string (f s)
  | _ => .null

/-- The number of characters, items or fields. -/
def size : Value → Value
  | .string s => .int (Int64.ofNat s.length)
  | .array items => .int (Int64.ofNat items.length)
  | .object fields => .int (Int64.ofNat fields.length)
  | _ => .null

/-- A function of numbers that keeps integers and gives whole results as integers. -/
def toWhole (f : Float → Float) : Value → Value
  | .int n => .int n
  | .float x => whole (f x)
  | _ => .null

/-- The number of decimal places asked for: none when the argument is missing or null. Only the low
32 bits of the argument count. -/
def places? : Value → Option Nat
  | .int d => if d < 0 then none else some (d.toInt.toNat % 0x100000000)
  | .null => some 0
  | _ => none

/-- A binary64 number rounded in decimal to a number of places, a half going away from zero. A
number that no decimal can hold stays as it is. -/
def roundFloat (decimals : DecimalArithmetic) (places : Nat) (x : Float) : Value :=
  match (decimals.ofFloat? x).bind fun d => decimals.toFloat? (decimals.roundTo places d) with
  | none => .float x
  | some rounded => if places = 0 then whole rounded else .float rounded

/-- Rounds a number to a number of places; an integer has none to lose. -/
def rounded (decimals : DecimalArithmetic) (number places : Value) : Value :=
  match places? places with
  | none => .null
  | some places =>
    match number with
    | .int n => .int n
    | .float x => roundFloat decimals places x
    | _ => .null

/-- A value as it reads inside a text. -/
def inText : Value → String
  | .string s => s
  | v => v.compact

/-- The value of a function at its arguments. -/
def apply (f : Transform) (args : List Value) : Value :=
  let first := args[0]?.getD .null
  let second := args[1]?.getD .null
  match f with
  | .abs => absolute first
  | .uppercase => onText Text.upper first
  | .lowercase => onText Text.lower first
  | .trim => onText Text.trim first
  | .length => size first
  | .round decimals => rounded decimals first second
  | .floor => toWhole Binary64.floor first
  | .ceil => toWhole Binary64.ceil first
  | .concat => .string (String.join (args.map inText))
  | .default =>
    match first with
    | .null => second
    | v => v
  | .custom f => f args

end Transform

end Reshape
