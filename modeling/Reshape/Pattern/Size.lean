import Reshape.Pattern.Encoding
import Reshape.Pattern.Simplify

/-!
# How much a pattern may need

A pattern is run by two automata over bytes, one for each direction of reading, and a pattern for
which one of them takes more than ten mebibytes is refused. The automata are not built here: their
size follows the simplified pattern. A state has a fixed price; a state with several ways on pays
for each of them, more for one that reads bytes than for one that does not.

Repetitions are written out: `p{m,n}` takes `n` copies of `p`. The forward automaton also marks
where groups begin and end; the backward one does not.
-/

namespace Reshape

namespace Pattern

/-! ## Prices in bytes -/

def statePrice : Nat := 32

/-- A way on that reads nothing, out of a state that has several. -/
def linkPrice : Nat := 4

/-- A way on that reads a range of bytes, out of a state that has several. -/
def branchPrice : Nat := 8

/-- What an automaton may take: ten mebibytes. -/
def sizeLimit : Nat := 10 * 1024 * 1024

/-- The direction an automaton reads in. -/
inductive Direction where
  | forward
  | backward
deriving DecidableEq

/-! ## Sets -/

/-- The price of reading one character of a set. -/
def setPrice (direction : Direction) (s : CharSet) : Nat :=
  if s.isAscii then 2 * statePrice + branchPrice * s.ranges.length
  else
    match direction with
    | .forward =>
      let count := s.forwardCount
      statePrice * (count.nodes + 1) + branchPrice * count.branches
    | .backward =>
      let (branches, leaves) := s.treeCount
      statePrice * (branches + 2) + linkPrice * leaves

/-! ## Literals -/

/-- The bytes of a literal in the order of reading. -/
def literalBytes (direction : Direction) (cs : List Char) : List UInt8 :=
  let bytes := cs.flatMap String.utf8EncodeChar
  match direction with
  | .forward => bytes
  | .backward => bytes.reverse

/-- What is behind a byte in the texts that begin with it. -/
def behind (byte : UInt8) (texts : List (List UInt8)) : List (List UInt8) :=
  texts.filterMap fun text =>
    match text with
    | b :: bs => if b = byte then some bs else none
    | [] => none

/-- The texts between those that are empty. -/
def segments : List (List UInt8) → List (List (List UInt8))
  | [] => [[]]
  | [] :: texts => [] :: segments texts
  | text :: texts =>
    match segments texts with
    | segment :: others => (text :: segment) :: others
    | [] => [[text]]

/-- Segments with no more than one empty text in front of all others. -/
def dropRepeatedEnds : List (List (List UInt8)) → List (List (List UInt8))
  | [] :: [] :: segments => dropRepeatedEnds ([] :: segments)
  | segments => segments

/-- The price of the tree that reads one of some texts, but for its end. The texts are tried in
their order: where one ends, those behind it are read from a state of their own. The bound is
greater than the length of every text. -/
def triePrice : Nat → List (List UInt8) → Nat
  | 0, _ => 0
  | bound + 1, texts =>
    if texts.all List.isEmpty then 0
    else
      let segments := dropRepeatedEnds (segments texts)
      let prices := segments.map fun segment =>
        let bytes := (segment.filterMap List.head?).eraseDups
        let below := (bytes.map fun byte => triePrice bound (behind byte segment)).sum
        match bytes.length with
        | 0 => 0
        | 1 => statePrice + linkPrice + below
        | ways => statePrice + branchPrice * ways + linkPrice + below
      statePrice + linkPrice * (segments.length - 1) + prices.sum

/-- The texts of some options if all are literals. -/
def literals? (direction : Direction) (options : List Pattern) : Option (List (List UInt8)) :=
  options.mapM fun p =>
    match p with
    | .literal cs => some (literalBytes direction cs)
    | _ => none

/-! ## Patterns -/

mutual

/-- The number of characters that a match has at least; none when there is no match. -/
def leastLength : Pattern → Option Nat
  | .empty => some 0
  | .literal cs => some cs.length
  | .set s _ => if s.ranges.isEmpty then none else some 1
  | .anchor _ => some 0
  | .group _ p => p.leastLength
  | .sequence parts => leastLengthAll parts
  | .choice options => leastLengthAny options
  | .repetition p least _ _ => p.leastLength.map (· * least)

def leastLengthAll : List Pattern → Option Nat
  | [] => some 0
  | p :: ps => do return (← p.leastLength) + (← leastLengthAll ps)

def leastLengthAny : List Pattern → Option Nat
  | [] => none
  | [p] => p.leastLength
  | p :: ps => do return min (← p.leastLength) (← leastLengthAny ps)

end

/-- The price of repeating a pattern with a price; `consumes` says that it never matches nothing.
-/
def repetitionPrice (price : Nat) (consumes : Bool) (least : Nat) (most : Option Nat) : Nat :=
  let fork := statePrice + 2 * linkPrice
  match least, most with
  | 0, some 1 => price + fork + statePrice
  | 0, none => if consumes then price + fork else price + 2 * fork + statePrice
  | least, none => least * price + fork
  | least, some most =>
    let copies := if least = 0 then statePrice else least * price
    if least = most then copies else copies + statePrice + (most - least) * (price + fork)

mutual

/-- The price of a simple pattern. -/
def price (direction : Direction) : Pattern → Nat
  | .empty => statePrice
  | .literal cs => statePrice * (literalBytes direction cs).length
  | .set s _ => setPrice direction s
  | .anchor _ => statePrice
  | .group _ p =>
    match direction with
    | .forward => p.price direction + 2 * statePrice
    | .backward => p.price direction
  | .sequence parts => priceAll direction parts
  | .choice options =>
    match literals? direction options with
    | some texts => triePrice (texts.flatten.length + 1) texts + statePrice
    | none => priceAll direction options + linkPrice * options.length + 2 * statePrice
  | .repetition p least most _ =>
    repetitionPrice (p.price direction) (p.leastLength.any (0 < ·)) least most

/-- The price of some simple patterns together. -/
def priceAll (direction : Direction) : List Pattern → Nat
  | [] => 0
  | p :: ps => p.price direction + priceAll direction ps

end

mutual

/-- Whether every match begins where the reading does: at the start of the text forward, at its end
backward. -/
def isAnchored (direction : Direction) : Pattern → Bool
  | .anchor a => a == (match direction with | .forward => Anchor.textStart | .backward => .textEnd)
  | .group _ p => p.isAnchored direction
  | .sequence parts =>
    match direction with
    | .forward => isAnchoredFirst direction parts
    | .backward => isAnchoredLast direction parts
  | .choice options => isAnchoredAll direction options
  | .repetition p least _ _ => 0 < least && p.isAnchored direction
  | _ => false

/-- Whether one of the parts at the front is anchored, up to the first that can take a character.
-/
def isAnchoredFirst (direction : Direction) : List Pattern → Bool
  | [] => false
  | p :: ps => p.isAnchored direction || (p.isWeightless && isAnchoredFirst direction ps)

/-- Whether one of the parts at the end is anchored, back to the last that can take a character. -/
def isAnchoredLast (direction : Direction) : List Pattern → Bool
  | [] => false
  | p :: ps =>
    (isWeightless.allWeightless ps && p.isAnchored direction) || isAnchoredLast direction ps

def isAnchoredAll (direction : Direction) : List Pattern → Bool
  | [] => true
  | p :: ps => p.isAnchored direction && isAnchoredAll direction ps

end

/-- The size of the automaton of a simple pattern: where it looks for a match, the pattern, the mark
of a match, and forward the marks of the whole match. -/
def automatonSize (direction : Direction) (p : Pattern) : Nat :=
  let search :=
    if p.isAnchored direction then statePrice
    else 3 * statePrice + branchPrice + 2 * linkPrice
  let marks :=
    match direction with
    | .forward => 3 * statePrice
    | .backward => statePrice
  search + p.price direction + marks

/-- Whether both automata of a pattern keep to the limit. -/
def fits (p : Pattern) : Bool :=
  let simple := p.simplify
  automatonSize .forward simple ≤ sizeLimit && automatonSize .backward simple ≤ sizeLimit

end Pattern

end Reshape
