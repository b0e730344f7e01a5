/-!
# Tables over code points

Data of the character standard comes in three shapes: sets as ranges, maps as runs of characters
that move by one distance, and partitions of all code points as runs of one class each. This module
says how each shape is read.
-/

namespace Reshape.Text

/-- Whether a code point lies in one of some ranges, ends included. -/
def inRanges (ranges : List (Nat × Nat)) (c : Nat) : Bool :=
  ranges.any fun (first, last) => first ≤ c && c ≤ last

/-- The characters from `first` to `last`, `step` apart, each mapped `delta` further. -/
structure Shift where
  first : Nat
  last : Nat
  step : Nat
  delta : Int

/-- Whether the shift maps a code point. -/
def Shift.moves (s : Shift) (c : Nat) : Bool :=
  s.first ≤ c && c ≤ s.last && (c - s.first) % s.step == 0

/-- The image of a code point; one that no shift maps stays. -/
def shifted (shifts : List Shift) (c : Nat) : Nat :=
  match shifts.find? (·.moves c) with
  | some s => (c + s.delta).toNat
  | none => c

/-- The code points that the shift maps. -/
def Shift.sources (s : Shift) : List Nat :=
  (List.range ((s.last - s.first) / s.step + 1)).map fun i => s.first + s.step * i

/-- Runs that partition the code points from U+0000 upward: a class and the number of code points
that have it. -/
abbrev Runs := List (String × Nat)

/-- The letters at the front of a run and the number behind them. -/
def readRun (run : String) : String × Nat :=
  let letters := run.toList.takeWhile (!·.isDigit)
  let digits := run.toList.dropWhile (!·.isDigit)
  (String.ofList letters, digits.foldl (fun n c => 10 * n + (c.toNat - '0'.toNat)) 0)

/-- Reads the lines of a run table. -/
def readRuns (lines : List String) : Runs :=
  lines.flatMap fun line => (line.splitOn " ").map readRun

/-- The ranges of the runs whose class is wanted; the first run begins at `start`. -/
def runRanges (wanted : String → Bool) (start : Nat) : Runs → List (Nat × Nat)
  | [] => []
  | (cls, length) :: runs =>
    let later := runRanges wanted (start + length) runs
    if wanted cls then (start, start + length - 1) :: later else later

end Reshape.Text
