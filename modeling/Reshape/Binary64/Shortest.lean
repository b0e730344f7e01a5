import Reshape.Binary64.Basic
import Reshape.Decimal.Scientific

/-!
# The shortest decimal text of a binary64 number

A finite number is written with the fewest decimal digits that read back as the same number, and
among texts of that length with the digits nearest to its value. The reals that read back as `x`
form an interval around it, ends included exactly when the significand of `x` is even. For each
digit count the only candidates are the two points of that decimal grid next to `x`; the first grid
with a point in the interval gives the digits. Seventeen digits always suffice.

Two notations share the digits. `text` writes every number positionally: no exponent, no trailing
`.0`. `structuralText`, the form used inside the text of a syntax tree, always shows that the
number is not an integer and moves to an exponent below `1e-4` and from `1e16` on.
-/

namespace Reshape.Binary64

/-- The interval of reals that read back as a positive finite number, in units of a quarter of the
number's last place: below a power of two the neighbour is twice as close. -/
structure Neighbourhood where
  low : Nat
  centre : Nat
  high : Nat
  /-- The unit is `2 ^ unit`. -/
  unit : Int
  /-- Whether the ends themselves read back as the number. -/
  closed : Bool

def Neighbourhood.of (x : Float) : Neighbourhood :=
  let s := significand x
  let narrow := s == hiddenBit && 2 * hiddenBit ≤ magnitude x
  { low := if narrow then 4 * s - 1 else 4 * s - 2
    centre := 4 * s
    high := 4 * s + 2
    unit := exponent x - 2
    closed := s % 2 == 0 }

/-- The factors that bring `n · 2 ^ unit` and `c · 10 ^ power` to one scale. -/
def Neighbourhood.factors (h : Neighbourhood) (power : Int) : Nat × Nat :=
  (tenTo (-power).toNat <<< h.unit.toNat, tenTo power.toNat <<< (-h.unit).toNat)

/-- Whether `c · 10 ^ power` reads back as the number. -/
def Neighbourhood.holds (h : Neighbourhood) (c : Nat) (power : Int) : Bool :=
  let (here, grid) := h.factors power
  if h.closed then h.low * here ≤ c * grid && c * grid ≤ h.high * here
  else h.low * here < c * grid && c * grid < h.high * here

/-- The point nearest to the number, among those of the grid `10 ^ power` that read back as it; of
two equally near ones the larger. -/
def Neighbourhood.onGrid? (h : Neighbourhood) (power : Int) : Option Nat :=
  let (here, grid) := h.factors power
  let below := h.centre * here / grid
  let above := below + 1
  match h.holds below power, h.holds above power with
  | true, true =>
    let fromBelow := h.centre * here - below * grid
    let toAbove := above * grid - h.centre * here
    some (if fromBelow < toAbove then below else above)
  | true, false => some below
  | false, true => some above
  | false, false => none

/-- The power of ten at or just below the number: an estimate from the bit length, which is at most
one off, and its correction. -/
def Neighbourhood.leadingPower (h : Neighbourhood) : Int :=
  let guess := ((Nat.log2 h.centre : Int) + h.unit) * 30103 / 100000
  let reaches (power : Int) : Bool :=
    let (here, grid) := h.factors power
    grid ≤ h.centre * here
  if reaches (guess + 1) then guess + 1 else if reaches guess then guess else guess - 1

/-- The first grid, coarse to fine, that holds a point of the neighbourhood. -/
def Neighbourhood.search (h : Neighbourhood) (lead : Int) : Nat → Nat → Scientific
  | 0, _ => ⟨h.centre, lead⟩
  | fuel + 1, digitCount =>
    let power := lead - digitCount
    match h.onGrid? power with
    | some c => if c % 10 == 0 then ⟨c / 10, power + 1⟩ else ⟨c, power⟩
    | none => h.search lead fuel (digitCount + 1)

/-- The shortest decimal number that reads back as a positive finite `x`. -/
def shortest (x : Float) : Scientific :=
  let h := Neighbourhood.of x
  h.search h.leadingPower 17 0

/-- A sign before the text of the magnitude; NaN has none. -/
def signed (x : Float) (finite : Float → List Char) : List Char :=
  if isNaN x then ['N', 'a', 'N']
  else
    let body := if isFinite x then finite x else ['i', 'n', 'f']
    if isNegative x then '-' :: body else body

/-- The positional text of a number: `30`, `0.1`, `-0`, `NaN`, `-inf`. -/
def chars (x : Float) : List Char :=
  signed x fun x => if magnitude x = 0 then ['0'] else (shortest x).positional

@[inherit_doc chars]
def text (x : Float) : String := String.ofList (chars x)

/-- The text of a number inside a syntax tree: `30.0`, `1e16`, `1.5e-7`. -/
def structuralText (x : Float) : String :=
  String.ofList <| signed x fun x =>
    if magnitude x = 0 then ['0', '.', '0']
    else
      let d := shortest x
      let lead := d.power + (d.digitChars.length : Int)
      if lead ≤ -4 || 17 ≤ lead then d.exponential
      else if d.power < 0 then d.positional else d.positional ++ ['.', '0']

example : text 0.1 = "0.1" := by decide +kernel

example : text (0.1 + 0.2) = "0.30000000000000004" := by decide +kernel

example : text 1e21 = "1000000000000000000000" := by decide +kernel

example : text (-0.0) = "-0" := by decide +kernel

example : structuralText 30 = "30.0" := by decide +kernel

example : structuralText 1e16 = "1e16" := by decide +kernel

end Reshape.Binary64
