import Reshape.Binary64.Shortest
import Reshape.Binary64.Whole
import Reshape.Value.Order
import Reshape.Sorting

/-!
# JSON text of values

One printer serves every notation; a `Style` says what stands between the parts and how a binary64
number is written. `Value.compact` has no blanks, `Value.pretty` gives every item and field a line
of its own, two blanks deeper than its container. Fields come in the order the object holds them.

`Value.canonicalText` is the compact text of the `canonical` value: fields sorted by name, and
whole binary64 numbers below `9e15` turned into the integer they equal. Values that hold the same
data are meant to have one canonical text, and groups are told apart by it.
-/

namespace Reshape

namespace Json

/-- The digit of a number below sixteen. -/
def hexDigit (n : Nat) : Char := Nat.digitChar n

/-- Control characters: U+0000 to U+001F and U+007F to U+009F. -/
def isControl (c : Char) : Bool := c.toNat < 0x20 || (0x7f ≤ c.toNat && c.toNat < 0xa0)

/-- A character inside quotes. Only the quote, the backslash and control characters are changed. -/
def escape (c : Char) : List Char :=
  match c with
  | '"' => ['\\', '"']
  | '\\' => ['\\', '\\']
  | '\n' => ['\\', 'n']
  | '\r' => ['\\', 'r']
  | '\t' => ['\\', 't']
  | c =>
    if isControl c then
      ['\\', 'u', '0', '0', hexDigit (c.toNat / 16), hexDigit (c.toNat % 16)]
    else [c]

/-- A text in quotes. -/
def quoted (s : String) : List Char := '"' :: s.toList.flatMap escape ++ ['"']

/-- An integer in decimal. -/
def integer (n : Int) : List Char :=
  if n < 0 then '-' :: Nat.toDigits 10 n.natAbs else Nat.toDigits 10 n.natAbs

/-- What a notation writes around and between the parts of a value. -/
structure Style where
  /-- Stands before an item or a closing bracket at a depth. -/
  lineBreak : Nat → List Char
  afterColon : List Char
  number : Float → List Char

/-- The JSON text of a binary64 number: what is not finite becomes null. -/
def finiteNumber (x : Float) : List Char :=
  if Binary64.isFinite x then Binary64.chars x else ['n', 'u', 'l', 'l']

/-- No blanks at all. -/
def Style.compact : Style := ⟨fun _ => [], [], finiteNumber⟩

/-- A line for each item and field, indented by two blanks a level. -/
def Style.pretty : Style :=
  ⟨fun depth => '\n' :: List.replicate (2 * depth) ' ', [' '], finiteNumber⟩

mutual

/-- The text of a value that stands at a depth. -/
def print (style : Style) (depth : Nat) : Value → List Char
  | .null => ['n', 'u', 'l', 'l']
  | .bool true => ['t', 'r', 'u', 'e']
  | .bool false => ['f', 'a', 'l', 's', 'e']
  | .int n => integer n.toInt
  | .float x => style.number x
  | .string s => quoted s
  | .array [] => ['[', ']']
  | .array (v :: vs) =>
    '[' :: style.lineBreak (depth + 1) ++ print style (depth + 1) v ++
      printItems style depth vs
  | .object [] => ['{', '}']
  | .object ((name, v) :: fields) =>
    '{' :: style.lineBreak (depth + 1) ++ quoted name ++ ':' :: style.afterColon ++
      print style (depth + 1) v ++ printFields style depth fields

/-- What follows the first item of an array: the other items and the closing bracket. -/
def printItems (style : Style) (depth : Nat) : List Value → List Char
  | [] => style.lineBreak depth ++ [']']
  | v :: vs =>
    ',' :: style.lineBreak (depth + 1) ++ print style (depth + 1) v ++
      printItems style depth vs

/-- What follows the first field of an object: the other fields and the closing brace. -/
def printFields (style : Style) (depth : Nat) : List (String × Value) → List Char
  | [] => style.lineBreak depth ++ ['}']
  | (name, v) :: fields =>
    ',' :: style.lineBreak (depth + 1) ++ quoted name ++ ':' :: style.afterColon ++
      print style (depth + 1) v ++ printFields style depth fields

end

end Json

namespace Value

/-- JSON text without blanks. -/
def compact (v : Value) : String := String.ofList (Json.print .compact 0 v)

/-- JSON text over several lines. -/
def pretty (v : Value) : String := String.ofList (Json.print .pretty 0 v)

/-- Fields by name. -/
def compareNames (a b : String × Value) : Ordering := compare a.1 b.1

/-- The integer a binary64 number is written as in canonical text: whole numbers below `9e15`, both
zeros among them. -/
def canonicalFloat (x : Float) : Value :=
  if Binary64.isWhole x && (Binary64.truncate x).natAbs < 9000000000000000 then
    .int (Int64.ofInt (Binary64.truncate x))
  else .float x

mutual

/-- The representative of a value: fields sorted by name, whole binary64 numbers as integers. -/
def canonical : Value → Value
  | .float x => canonicalFloat x
  | .array items => .array (canonicalItems items)
  | .object fields => .object (stableSort compareNames (canonicalFields fields))
  | v => v

def canonicalItems : List Value → List Value
  | [] => []
  | v :: vs => v.canonical :: canonicalItems vs

def canonicalFields : List (String × Value) → List (String × Value)
  | [] => []
  | (name, v) :: fields => (name, v.canonical) :: canonicalFields fields

end

/-- The compact text of the canonical value. -/
def canonicalText (v : Value) : String := v.canonical.compact

example : (Value.array [.null, .float 2.5, .string "a\n\x7f"]).compact =
    "[null,2.5,\"a\\n\\u007f\"]" := by decide +kernel

example : (Value.array [.int 1, .array []]).pretty = "[\n  1,\n  []\n]" := by decide +kernel

example : (Value.float (-0.0)).canonicalText = "0" := by decide +kernel

end Value

end Reshape
