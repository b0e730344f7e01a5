import Reshape.Pattern.Classes

/-!
# Patterns

A pattern describes a set of texts: characters from sets, conditions on the place between two
characters, sequences, alternatives and repetitions. The tree follows the written form, because the
limits on patterns count what is written. Which of several ways a pattern matches is never asked,
only whether it matches: groups and the greed of repetitions have no bearing on that.
-/

namespace Reshape

/-- The edge of a word that a place must or must not be. -/
inductive WordEdge where
  | boundary
  | noBoundary
  | start
  | finish
  /-- No word character before the place. -/
  | openBefore
  /-- No word character after the place. -/
  | openAfter
deriving DecidableEq

/-- A condition on a place between characters. -/
inductive Anchor where
  | textStart
  | textEnd
  /-- With `returns`, a carriage return ends a line too, alone or before a line feed. -/
  | lineStart (returns : Bool)
  | lineEnd (returns : Bool)
  /-- With `ascii`, only ASCII letters, digits and underscores are word characters. -/
  | word (edge : WordEdge) (ascii : Bool)
deriving DecidableEq

/-- A pattern. -/
inductive Pattern where
  /-- Nothing, or flags by themselves. -/
  | empty
  /-- Some characters one after the other. -/
  | literal (cs : List Char)
  /-- One character of a set; `brackets` counts the levels of brackets it is written with. -/
  | set (s : CharSet) (brackets : Nat)
  | anchor (a : Anchor)
  /-- A group in parentheses. One that can be referred to has an index. -/
  | group (index : Option Nat) (p : Pattern)
  | sequence (parts : List Pattern)
  | choice (options : List Pattern)
  /-- At least `least` and at most `most` times in a row, without an upper limit when that is none.
-/
  | repetition (p : Pattern) (least : Nat) (most : Option Nat) (greedy : Bool)
deriving Inhabited

namespace Pattern

/-- The sequence of some parts; one part stands for itself. -/
def ofParts : List Pattern → Pattern
  | [] => .empty
  | [p] => p
  | parts => .sequence parts

/-- The choice between some options; one option stands for itself. -/
def ofOptions : List Pattern → Pattern
  | [p] => p
  | options => .choice options

mutual

/-- How deep a pattern is written: the greatest number of parentheses, brackets, repetitions,
sequences and choices inside one another. -/
def nesting : Pattern → Nat
  | .empty => 0
  | .literal _ => 0
  | .set _ brackets => brackets
  | .anchor _ => 0
  | .group _ p => p.nesting + 1
  | .sequence parts => nestingAll parts + 1
  | .choice options => nestingAll options + 1
  | .repetition p _ _ _ => p.nesting + 1

/-- The depth of the deepest of some patterns. -/
def nestingAll : List Pattern → Nat
  | [] => 0
  | p :: ps => max p.nesting (nestingAll ps)

end

mutual

/-- Whether two patterns are the same tree. -/
def same : Pattern → Pattern → Bool
  | .empty, .empty => true
  | .literal cs, .literal ds => cs == ds
  | .set s m, .set t n => s == t && m == n
  | .anchor a, .anchor b => a == b
  | .group i p, .group j q => i == j && p.same q
  | .sequence ps, .sequence qs => sameAll ps qs
  | .choice ps, .choice qs => sameAll ps qs
  | .repetition p l m g, .repetition q l' m' g' => p.same q && l == l' && m == m' && g == g'
  | _, _ => false

/-- Whether two lists of patterns are the same. -/
def sameAll : List Pattern → List Pattern → Bool
  | [], [] => true
  | p :: ps, q :: qs => p.same q && sameAll ps qs
  | _, _ => false

end

end Pattern

end Reshape
