import Reshape.Text.CodePoints

/-!
# Sets of characters

A set is held by its ranges of code points in ascending order, no two of them touching, so that
equal sets are the same list of ranges. The surrogates are code points of no character: what a set
says about them has no meaning, and a complement never holds one.
-/

namespace Reshape

/-- A set of characters. -/
structure CharSet where
  /-- Ranges in ascending order, ends included, with a gap between any two. -/
  ranges : List (Nat × Nat)
deriving DecidableEq, Inhabited

namespace CharSet

/-- The last code point. -/
def lastCode : Nat := 0x10ffff

/-- The code points that stand for no character. -/
def surrogates : Nat × Nat := (0xd800, 0xdfff)

def has (s : CharSet) (c : Char) : Bool := Text.inRanges s.ranges c.toNat

/-- The range from `first` to `last` put among ascending ranges, joined with those it touches. -/
def insertRange (first last : Nat) : List (Nat × Nat) → List (Nat × Nat)
  | [] => [(first, last)]
  | (a, b) :: rest =>
    if last + 1 < a then (first, last) :: (a, b) :: rest
    else if b + 1 < first then (a, b) :: insertRange first last rest
    else insertRange (min first a) (max last b) rest

/-- Ranges in any order put among ascending ones. -/
def insertRanges (ranges ascending : List (Nat × Nat)) : List (Nat × Nat) :=
  ranges.foldr (fun r => insertRange r.1 r.2) ascending

/-- The set of some ranges in any order. -/
def ofRanges (ranges : List (Nat × Nat)) : CharSet := ⟨insertRanges ranges []⟩

/-- The characters from `first` to `last`. -/
def range (first last : Char) : CharSet := ⟨[(first.toNat, last.toNat)]⟩

def single (c : Char) : CharSet := range c c

/-- The characters of some ranges. -/
def ofPairs (pairs : List (Char × Char)) : CharSet :=
  ofRanges (pairs.map fun (a, b) => (a.toNat, b.toNat))

def empty : CharSet := ⟨[]⟩

def union (a b : CharSet) : CharSet := ⟨insertRanges a.ranges b.ranges⟩

/-- The gaps of ascending ranges, from `start` to the last code point. -/
def gaps (start : Nat) : List (Nat × Nat) → List (Nat × Nat)
  | [] => if start ≤ lastCode then [(start, lastCode)] else []
  | (a, b) :: rest =>
    if start < a then (start, a - 1) :: gaps (b + 1) rest else gaps (b + 1) rest

/-- The characters that are not in a set. -/
def complement (s : CharSet) : CharSet := ⟨gaps 0 (insertRanges [surrogates] s.ranges)⟩

def inter (a b : CharSet) : CharSet := (a.complement.union b.complement).complement

/-- The characters of the first set that are not in the second. -/
def minus (a b : CharSet) : CharSet := a.inter b.complement

/-- The characters of exactly one of two sets. -/
def oneOf (a b : CharSet) : CharSet := (a.minus b).union (b.minus a)

/-- Every character. -/
def all : CharSet := empty.complement

/-- The only character of a set, if it has just one. -/
def single? (s : CharSet) : Option Char :=
  match s.ranges with
  | [(a, b)] => if a = b then some (Char.ofNat a) else none
  | _ => none

/-- The union of some sets. -/
def unions (sets : List CharSet) : CharSet := sets.foldr union empty

/-- Whether a set holds ASCII characters only. -/
def isAscii (s : CharSet) : Bool := s.ranges.all fun r => r.2 < 128

example : (ofPairs [('d', 'f'), ('a', 'c'), ('x', 'x')]).ranges = [(97, 102), (120, 120)] := by
  decide +kernel

example : (single 'b').complement.has 'a' = true := by decide +kernel

example : ((range 'a' 'z').minus (range 'c' 'y')).ranges = [(97, 98), (122, 122)] := by
  decide +kernel

end CharSet

end Reshape
