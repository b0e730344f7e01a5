/-!
# Decimal numbers in scientific form

A natural number times a power of ten, and its two written forms: positional, without an exponent
however long that gets, and exponential, with one digit before the point.
-/

namespace Reshape

/-- Ten to a power. -/
def tenTo (power : Nat) : Nat := Nat.pow 10 power

/-- The number `digits · 10 ^ power`. -/
structure Scientific where
  digits : Nat
  power : Int
deriving DecidableEq, Repr

namespace Scientific

/-- The decimal digits of the number's digits. -/
def digitChars (d : Scientific) : List Char := Nat.toDigits 10 d.digits

/-- The number without an exponent. -/
def positional (d : Scientific) : List Char :=
  let digits := d.digitChars
  if 0 ≤ d.power then digits ++ List.replicate d.power.toNat '0'
  else
    let places := (-d.power).toNat
    if places < digits.length then
      digits.take (digits.length - places) ++ '.' :: digits.drop (digits.length - places)
    else '0' :: '.' :: List.replicate (places - digits.length) '0' ++ digits

/-- The number with one digit before the point and an exponent. -/
def exponential (d : Scientific) : List Char :=
  let digits := d.digitChars
  let exponent := d.power + (digits.length - 1 : Nat)
  let sign := if exponent < 0 then ['-'] else []
  let fraction := if 1 < digits.length then '.' :: digits.drop 1 else []
  digits.take 1 ++ fraction ++ 'e' :: sign ++ Nat.toDigits 10 exponent.natAbs

/-- One place less, a half going up. -/
def dropPlace (d : Scientific) : Scientific :=
  ⟨if 5 ≤ d.digits % 10 then d.digits / 10 + 1 else d.digits / 10, d.power + 1⟩

/-- Gives up `count` places; a number too small to show at all is zero. -/
def lower : Nat → Scientific → Scientific
  | 0, d => d
  | count + 1, d => if d.digits < 10 then ⟨0, 0⟩ else lower count d.dropPlace

/-- Gives up places while the digits are `limit` or more, at most `count` of them. -/
def trim (limit : Nat) : Nat → Scientific → Scientific
  | 0, d => d
  | count + 1, d => if limit ≤ d.digits then trim limit count d.dropPlace else d

/-- Removes zeros at the end, at most `count` of them. -/
def strip : Nat → Scientific → Scientific
  | 0, d => d
  | count + 1, d => if d.digits % 10 = 0 then strip count ⟨d.digits / 10, d.power + 1⟩ else d

end Scientific

end Reshape
