import Reshape.Pattern.Basic

/-!
# Simplifying patterns

A simpler pattern that matches the same texts. Characters in a row become one literal, sets of one
character are literals, choices between single characters or sets are one set, and what all options
of a choice begin with is taken out in front. A repetition of what is always empty is taken once,
one that happens exactly once is its pattern, and one that never happens is empty. Groups without
an index leave no trace.
-/

namespace Reshape.Pattern

/-- Whether a pattern can only match nothing: it holds conditions on places at most. -/
def isWeightless : Pattern → Bool
  | .empty => true
  | .literal _ => false
  | .set _ _ => false
  | .anchor _ => true
  | .group _ p => p.isWeightless
  | .sequence parts => allWeightless parts
  | .choice options => allWeightless options
  | .repetition p _ most _ => most.isSome && p.isWeightless
where
  allWeightless : List Pattern → Bool
    | [] => true
    | p :: ps => p.isWeightless && allWeightless ps

/-- A set as simply as it can be said. -/
def ofSet (s : CharSet) : Pattern :=
  match s.single? with
  | some c => .literal [c]
  | none => .set s 0

/-- A repetition as simply as it can be said. -/
def repeated (p : Pattern) (least : Nat) (most : Option Nat) (greedy : Bool) : Pattern :=
  let (least, most) :=
    if p.isWeightless then (min least 1, some (most.elim 1 (min · 1))) else (least, most)
  if most = some 0 then .empty
  else if least = 1 ∧ most = some 1 then p
  else .repetition p least most greedy

/-- A part in front of parts; characters in a row are taken together. -/
def consPart : Pattern → List Pattern → List Pattern
  | .empty, parts => parts
  | .literal cs, .literal ds :: parts => .literal (cs ++ ds) :: parts
  | p, parts => p :: parts

/-- The parts of a sequence; any other pattern is one part. -/
def parts : Pattern → List Pattern
  | .sequence ps => ps
  | p => [p]

/-- Some simple patterns one after the other. -/
def joined (ps : List Pattern) : Pattern := ofParts ((ps.flatMap parts).foldr consPart [])

/-- The options of a choice; any other pattern is one option. -/
def options : Pattern → List Pattern
  | .choice ps => ps
  | p => [p]

/-- The only character of a literal that has just one. -/
def char? : Pattern → Option Char
  | .literal [c] => some c
  | _ => none

def set? : Pattern → Option CharSet
  | .set s _ => some s
  | _ => none

/-- The set that options amount to if all are single characters or all are sets. -/
def optionSet? (options : List Pattern) : Option CharSet :=
  match options.mapM char? with
  | some cs => some (.ofPairs (cs.map fun c => (c, c)))
  | none => (options.mapM set?).map CharSet.unions

/-- The length of the longest beginning that two lists of parts share. -/
def sharedLength : List Pattern → List Pattern → Nat
  | p :: ps, q :: qs => if p.same q then sharedLength ps qs + 1 else 0
  | _, _ => 0

/-- The parts of a sequence with more than one. -/
def sequenceParts? : Pattern → Option (List Pattern)
  | .sequence ps => some ps
  | _ => none

/-- What all options begin with, if they are sequences that share a beginning, and what is left of
each. -/
def sharedPrefix? (options : List Pattern) : Option (List Pattern × List (List Pattern)) := do
  match ← options.mapM sequenceParts? with
  | [] => none
  | first :: others =>
    let length := others.foldl (fun n ps => min n (sharedLength first ps)) first.length
    if length = 0 then none
    else return (first.take length, (first :: others).map (·.drop length))

/-- A choice between simple patterns, with nothing taken out in front. -/
def plainChoice (options : List Pattern) : Pattern :=
  match options with
  | [] => .set .empty 0
  | [p] => p
  | options => (optionSet? options).elim (.choice options) ofSet

/-- A choice between simple patterns. -/
def chosen (ps : List Pattern) : Pattern :=
  let options := ps.flatMap options
  match options, optionSet? options, sharedPrefix? options with
  | _ :: _ :: _, none, some (shared, rests) =>
    joined (shared ++ [plainChoice ((rests.map joined).flatMap Pattern.options)])
  | _, _, _ => plainChoice options

mutual

/-- A simpler pattern that matches the same texts. -/
def simplify : Pattern → Pattern
  | .empty => .empty
  | .literal cs => .literal cs
  | .set s _ => ofSet s
  | .anchor a => .anchor a
  | .group none p => p.simplify
  | .group (some index) p => .group (some index) p.simplify
  | .sequence parts => joined (simplifyAll parts)
  | .choice options => chosen (simplifyAll options)
  | .repetition p least most greedy => repeated p.simplify least most greedy

def simplifyAll : List Pattern → List Pattern
  | [] => []
  | p :: ps => p.simplify :: simplifyAll ps

end

end Reshape.Pattern
