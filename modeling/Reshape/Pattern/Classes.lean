import Reshape.Pattern.CategoryTable
import Reshape.Pattern.CharSet
import Reshape.Pattern.FoldTable
import Reshape.Pattern.LetterTable
import Reshape.Pattern.ScriptTable
import Reshape.Text.Blank

/-!
# Classes of characters

The classes that patterns name, built from the general categories and the scripts of the character
standard, and the closure of a set under differences of case.
-/

namespace Reshape.CharSet

open Reshape.Pattern

/-- The general categories of all code points. -/
def categories : Text.Runs := Text.readRuns categoryRuns

/-- The scripts of all code points. -/
def scripts : Text.Runs := Text.readRuns scriptRuns

/-- The characters whose general category is one of some, each named by two letters. -/
def ofCategories (codes : List String) : CharSet :=
  ofRanges (Text.runRanges codes.contains 0 categories)

/-- The characters of a script, named by the four letters of its code. -/
def ofScript (code : String) : CharSet := ofRanges (Text.runRanges (· == code) 0 scripts)

def letter : CharSet := ofCategories ["Lu", "Ll", "Lt", "Lm", "Lo"]

def mark : CharSet := ofCategories ["Mn", "Mc", "Me"]

/-- Decimal digits of any script. -/
def digit : CharSet := ofCategories ["Nd"]

def blank : CharSet := ⟨Text.blankRanges⟩

/-- Letters, letter numbers, and other characters used as letters. -/
def alphabetic : CharSet := (letter.union (ofCategories ["Nl"])).union ⟨otherAlphabetic⟩

def lower : CharSet := (ofCategories ["Ll"]).union ⟨otherLower⟩

def upper : CharSet := (ofCategories ["Lu"]).union ⟨otherUpper⟩

def cased : CharSet := (lower.union upper).union (ofCategories ["Lt"])

def caseIgnorable : CharSet :=
  (ofCategories ["Mn", "Me", "Cf", "Lm", "Sk"]).union ⟨otherCaseIgnorable⟩

/-- Alphabetic characters and numbers of every kind. -/
def alphanumeric : CharSet := alphabetic.union (ofCategories ["Nd", "Nl", "No"])

/-- The characters that join their neighbours without showing themselves. -/
def joinControl : CharSet := ⟨[(0x200c, 0x200d)]⟩

/-- Word characters: alphabetic characters, marks, decimal digits, connecting punctuation and the
join controls. -/
def word : CharSet :=
  ((alphabetic.union mark).union (ofCategories ["Nd", "Pc"])).union joinControl

def ascii : CharSet := range '\x00' '\x7f'

def asciiDigit : CharSet := range '0' '9'

def asciiBlank : CharSet := ofPairs [('\t', '\r'), (' ', ' ')]

def asciiWord : CharSet := ofPairs [('0', '9'), ('A', 'Z'), ('_', '_'), ('a', 'z')]

/-! ## Differences of case -/

/-- Each character that folds to another one, with that other one. -/
def foldPairs : List (Nat × Nat) :=
  foldShifts.flatMap fun s => s.sources.map fun c => (c, (c + s.delta).toNat)

/-- A set with all characters that differ from one of its own by case alone. Characters differ by
case alone when they fold to the same one. -/
def folded (s : CharSet) : CharSet :=
  let within (c : Nat) : Bool := Text.inRanges s.ranges c
  let bases := (foldPairs.filter fun (c, base) => within c || within base).map (·.2)
  let counterparts := foldPairs.filter fun (_, base) => bases.contains base
  ⟨insertRanges (counterparts.flatMap fun (c, base) => [(c, c), (base, base)]) s.ranges⟩

/-- A set with the other case of its ASCII letters. -/
def asciiFolded (s : CharSet) : CharSet :=
  let lowered := (s.inter (range 'A' 'Z')).ranges.map fun (a, b) => (a + 32, b + 32)
  let raised := (s.inter (range 'a' 'z')).ranges.map fun (a, b) => (a - 32, b - 32)
  ⟨insertRanges (lowered ++ raised) s.ranges⟩

end Reshape.CharSet
