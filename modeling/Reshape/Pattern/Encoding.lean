import Reshape.Pattern.CharSet

/-!
# Sets of characters as automata over bytes

An automaton reads a character byte by byte in UTF-8, so a set becomes a tree: from its root go
ranges of first bytes, from their ends ranges of second bytes, and so on. A byte behind the first
has 64 values, hence a range of code points splits at multiples of powers of 64: whole blocks next
to one another share a branch, and a block that is only partly in the set has one of its own.

Reading forward, equal subtrees are kept once. Reading backward, the tree is kept whole and entered
at every leaf. This module counts what the two need; `Pattern.Size` gives it its price.
-/

namespace Reshape

/-- Ranges in ascending order, relative to the block they lie in. -/
abbrev BlockRanges := List (Nat × Nat)

/-- A branch of the tree: the first and last block it stands for, and what the set holds of each. -/
abbrev Branch := (Nat × Nat) × BlockRanges

/-- The number of code points that share all bytes but the last `level` ones. -/
def blockSize : Nat → Nat
  | 0 => 1
  | level + 1 => 64 * blockSize level

/-- The branches of one range for blocks of a size: a block at either end that the range covers in
part, and the whole blocks between. -/
def rangeBranches (size : Nat) (range : Nat × Nat) : List Branch :=
  let (low, high) := range
  let first := low / size
  let last := high / size
  if first = last then [((first, first), [(low % size, high % size)])]
  else
    let head := if low % size = 0 then [] else [((first, first), [(low % size, size - 1)])]
    let tail := if high % size = size - 1 then [] else [((last, last), [(0, high % size)])]
    let wholeFirst := first + head.length
    let wholeEnd := last + 1 - tail.length
    let whole :=
      if wholeFirst < wholeEnd then [((wholeFirst, wholeEnd - 1), [(0, size - 1)])] else []
    head ++ whole ++ tail

/-- A branch in front of others, taken together with the first of them if the blocks are the same.
-/
def addBranch (branch : Branch) : List Branch → List Branch
  | [] => [branch]
  | next :: branches =>
    if next.1 = branch.1 then (next.1, branch.2 ++ next.2) :: branches
    else branch :: next :: branches

/-- The branches of a node whose characters have `level` more bytes behind the next one. -/
def branches (level : Nat) (ranges : BlockRanges) : List Branch :=
  (ranges.flatMap (rangeBranches (blockSize level))).foldr addBranch []

/-- What a set holds of the characters with one length: the part of it between two code points. -/
def CharSet.between (s : CharSet) (low high : Nat) : BlockRanges :=
  s.ranges.filterMap fun (a, b) =>
    if max a low ≤ min b high then some (max a low, min b high) else none

/-- The characters of a set whose first byte has `level` more behind it. -/
def CharSet.ofLength (s : CharSet) : Nat → BlockRanges
  | 0 => s.between 0 0x7f
  | 1 => s.between 0x80 0x7ff
  | 2 => s.between 0x800 0xd7ff ++ s.between 0xe000 0xffff
  | _ => s.between 0x10000 CharSet.lastCode

/-- The branches at the root whose characters have `level` bytes behind the first. -/
def CharSet.rootBranches (s : CharSet) (level : Nat) : List Branch :=
  branches level (s.ofLength level)

/-- Numbers of nodes and of the branches that leave them. -/
structure TreeCount where
  nodes : Nat
  branches : Nat

/-- What different subtrees there are below the root with at most `level` bytes behind their first,
given those of the greatest height that hang on larger subtrees. -/
def CharSet.sharedCount (s : CharSet) : Nat → List BlockRanges → TreeCount
  | 0, above =>
    let nodes := (((s.rootBranches 1).map (·.2)) ++ above).eraseDups
    ⟨nodes.length, nodes.flatten.length⟩
  | level + 1, above =>
    let nodes := (((s.rootBranches (level + 2)).map (·.2)) ++ above).eraseDups
    let parts := nodes.map (branches (level + 1))
    let below := s.sharedCount level (parts.flatMap fun bs => bs.map (·.2))
    ⟨nodes.length + below.nodes, parts.flatten.length + below.branches⟩

/-- The automaton that reads one character of the set forward: its nodes but for the end, and its
branches. -/
def CharSet.forwardCount (s : CharSet) : TreeCount :=
  let below := s.sharedCount 2 []
  let root := (List.range 4).flatMap s.rootBranches
  ⟨below.nodes + 1, below.branches + root.length⟩

/-- The branches below a node and the leaves among them, with nothing shared. -/
def wholeCount : Nat → BlockRanges → Nat × Nat
  | 0, ranges => (ranges.length, ranges.length)
  | level + 1, ranges =>
    (branches (level + 1) ranges).foldl (fun (all, leaves) branch =>
      let (below, ends) := wholeCount level branch.2
      (all + 1 + below, leaves + ends)) (0, 0)

/-- The tree of a set: its branches and its leaves. -/
def CharSet.treeCount (s : CharSet) : Nat × Nat :=
  [0, 1, 2, 3].foldl (fun (all, leaves) level =>
    let (more, ends) := wholeCount level (s.ofLength level)
    (all + more, leaves + ends)) (0, 0)

end Reshape
