import Reshape.Decimal.Scientific
import Reshape.Value.Basic

/-!
# Reading JSON text

`Json.parse?` reads a text of the JSON grammar into a value and keeps the order of fields. A number
without fraction and exponent that fits in 64 bits is an integer; every other number is the nearest
binary64 number. A text that repeats a field name within one object is refused, so that every value
read has each name once.

Each reader takes the characters that are left and returns what it read with the characters behind
it. Nested values are read with a bound on the work; every value takes at least one character, so
the length of the text is bound enough.
-/

namespace Reshape.Json

/-- The four blanks of the grammar. -/
def isBlank (c : Char) : Bool := c == ' ' || c == '\n' || c == '\r' || c == '\t'

def skipBlanks (s : List Char) : List Char := s.dropWhile isBlank

/-! ## Strings -/

def hexValue? (c : Char) : Option Nat :=
  if '0' ≤ c && c ≤ '9' then some (c.toNat - '0'.toNat)
  else if 'a' ≤ c && c ≤ 'f' then some (c.toNat - 'a'.toNat + 10)
  else if 'A' ≤ c && c ≤ 'F' then some (c.toNat - 'A'.toNat + 10)
  else none

def hexFour? (a b c d : Char) : Option Nat := do
  return (((← hexValue? a) * 16 + (← hexValue? b)) * 16 + (← hexValue? c)) * 16 + (← hexValue? d)

/-- The character a single-letter escape stands for. -/
def unescape? (c : Char) : Option Char :=
  match c with
  | '"' => some '"'
  | '\\' => some '\\'
  | '/' => some '/'
  | 'b' => some '\x08'
  | 'f' => some '\x0c'
  | 'n' => some '\n'
  | 'r' => some '\r'
  | 't' => some '\t'
  | _ => none

/-- The character of a code point that is no surrogate. -/
def scalar? (n : Nat) : Option Char := if n.isValidChar then some (Char.ofNat n) else none

def isHighSurrogate (n : Nat) : Bool := 0xd800 ≤ n && n < 0xdc00

def isLowSurrogate (n : Nat) : Bool := 0xdc00 ≤ n && n < 0xe000

/-- Reads to the closing quote; `done` holds the characters read so far, last first. Two escapes
that form a surrogate pair are one character, and a surrogate without its partner is refused. -/
def readString (done : List Char) : List Char → Option (String × List Char)
  | '"' :: rest => some (String.ofList done.reverse, rest)
  | '\\' :: 'u' :: a :: b :: c :: d :: '\\' :: 'u' :: e :: f :: g :: h :: rest => do
    let first ← hexFour? a b c d
    if isHighSurrogate first then
      let second ← hexFour? e f g h
      if isLowSurrogate second then
        let joined ← scalar? (0x10000 + (first - 0xd800) * 0x400 + (second - 0xdc00))
        readString (joined :: done) rest
      else none
    else
      let single ← scalar? first
      readString (single :: done) ('\\' :: 'u' :: e :: f :: g :: h :: rest)
  | '\\' :: 'u' :: a :: b :: c :: d :: rest => do
    let single ← (hexFour? a b c d).bind scalar?
    readString (single :: done) rest
  | '\\' :: c :: rest => do
    let single ← unescape? c
    readString (single :: done) rest
  | c :: rest => if c.toNat < 0x20 then none else readString (c :: done) rest
  | [] => none

/-! ## Numbers -/

/-- The digits at the front and what follows them. -/
def spanDigits (s : List Char) : List Char × List Char := s.span Char.isDigit

def digitsValue (digits : List Char) : Nat :=
  digits.foldl (fun n c => 10 * n + (c.toNat - '0'.toNat)) 0

/-- The digits behind a decimal point; none when the point has no digit behind it. -/
def readFraction : List Char → Option (List Char × List Char)
  | '.' :: rest =>
    match spanDigits rest with
    | ([], _) => none
    | (digits, rest) => some (digits, rest)
  | s => some ([], s)

/-- The signed digits behind an exponent mark. -/
def readSignedDigits (s : List Char) : Option (Int × List Char) :=
  let (negative, unsigned) :=
    match s with
    | '-' :: rest => (true, rest)
    | '+' :: rest => (false, rest)
    | s => (false, s)
  match spanDigits unsigned with
  | ([], _) => none
  | (digits, rest) =>
    let n : Int := digitsValue digits
    some (if negative then -n else n, rest)

/-- The exponent, when there is a mark. -/
def readExponent : List Char → Option (Option Int × List Char)
  | 'e' :: rest => (readSignedDigits rest).map fun (n, rest) => (some n, rest)
  | 'E' :: rest => (readSignedDigits rest).map fun (n, rest) => (some n, rest)
  | s => some (none, s)

/-- The binary64 number nearest to `± digits · 10 ^ power`. Past 310 places before the point, or
330 behind it, every number is infinite or zero, and no power has to be computed. -/
def decimalFloat (negative : Bool) (digits : List Char) (power : Int) : Float :=
  let significant := digits.dropWhile (· == '0')
  let lead : Int := significant.length + power
  if significant.isEmpty || lead < -330 then Binary64.ofMagnitude negative 0
  else if 310 < lead then Binary64.ofMagnitude negative Binary64.infinityMagnitude
  else
    Binary64.ofFraction negative (digitsValue significant * tenTo power.toNat)
      (tenTo (-power).toNat)

/-- The value of a number's parts. -/
def numberValue (negative : Bool) (whole fraction : List Char) (exponent : Option Int) : Value :=
  let n : Int := if negative then -(digitsValue whole : Int) else digitsValue whole
  if fraction.isEmpty && exponent.isNone && Int64.minValue.toInt ≤ n && n ≤ Int64.maxValue.toInt
  then .int (Int64.ofInt n)
  else .float (decimalFloat negative (whole ++ fraction) (exponent.getD 0 - fraction.length))

/-- Reads a number: an optional minus, digits without a leading zero, a fraction, an exponent. -/
def readNumber (s : List Char) : Option (Value × List Char) := do
  let (negative, unsigned) :=
    match s with
    | '-' :: rest => (true, rest)
    | s => (false, s)
  let (whole, rest) := spanDigits unsigned
  match whole with
  | [] => none
  | '0' :: _ :: _ => none
  | _ =>
    let (fraction, rest) ← readFraction rest
    let (exponent, rest) ← readExponent rest
    return (numberValue negative whole fraction exponent, rest)

/-! ## Values -/

mutual

/-- Reads one value, blanks before it skipped. -/
def readValue : Nat → List Char → Option (Value × List Char)
  | 0, _ => none
  | bound + 1, s =>
    match skipBlanks s with
    | 'n' :: 'u' :: 'l' :: 'l' :: rest => some (.null, rest)
    | 't' :: 'r' :: 'u' :: 'e' :: rest => some (.bool true, rest)
    | 'f' :: 'a' :: 'l' :: 's' :: 'e' :: rest => some (.bool false, rest)
    | '"' :: rest => (readString [] rest).map fun (s, rest) => (.string s, rest)
    | '[' :: rest =>
      match skipBlanks rest with
      | ']' :: rest => some (.array [], rest)
      | rest => (readItems bound rest).map fun (items, rest) => (.array items, rest)
    | '{' :: rest =>
      match skipBlanks rest with
      | '}' :: rest => some (.object [], rest)
      | rest => do
        let (fields, rest) ← readFields bound rest
        if (fields.map (·.1)).Nodup then return (.object fields, rest) else none
    | s => readNumber s

/-- Reads the items of an array up to its closing bracket. -/
def readItems : Nat → List Char → Option (List Value × List Char)
  | 0, _ => none
  | bound + 1, s => do
    let (v, rest) ← readValue bound s
    match skipBlanks rest with
    | ']' :: rest => return ([v], rest)
    | ',' :: rest =>
      let (vs, rest) ← readItems bound rest
      return (v :: vs, rest)
    | _ => none

/-- Reads the fields of an object up to its closing brace. -/
def readFields : Nat → List Char → Option (List (String × Value) × List Char)
  | 0, _ => none
  | bound + 1, s =>
    match skipBlanks s with
    | '"' :: rest => do
      let (name, rest) ← readString [] rest
      match skipBlanks rest with
      | ':' :: rest =>
        let (v, rest) ← readValue bound rest
        match skipBlanks rest with
        | '}' :: rest => return ([(name, v)], rest)
        | ',' :: rest =>
          let (fields, rest) ← readFields bound rest
          return ((name, v) :: fields, rest)
        | _ => none
      | _ => none
    | _ => none

end

/-- The value of a JSON text; none when the text is not JSON. -/
def parse? (text : String) : Option Value := do
  let s := text.toList
  let (v, rest) ← readValue (s.length + 1) s
  if (skipBlanks rest).isEmpty then return v else none

end Reshape.Json
