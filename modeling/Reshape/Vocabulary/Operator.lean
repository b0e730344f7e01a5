import Reshape.Query.Error
import Reshape.Query.Syntax
import Reshape.Value.Order

/-!
# Predicate operators

What a key of a conjunction can mean besides naming a part of the value: a built-in operator, or one
that an application adds, which is known by what it makes of its operand.

No pattern language is fixed here. An operator that matches patterns comes with the engine that
reads and matches them, and what is proved about predicates is proved for every engine.
-/

namespace Reshape

/-- A comparison with a literal. -/
inductive Comparison where
  | less
  | atMost
  | atLeast
  | greater
deriving DecidableEq, Inhabited

namespace Comparison

/-- The name that messages use, whatever name a query reached the comparison by. -/
def symbol : Comparison → String
  | .less => "<"
  | .atMost => "<="
  | .atLeast => ">="
  | .greater => ">"

/-- Whether the comparison holds of a value that compares so to the literal. -/
def accepts : Comparison → Ordering → Bool
  | .less, o => o == .lt
  | .atMost, o => o != .gt
  | .atLeast, o => o != .lt
  | .greater, o => o == .gt

end Comparison

/-- A pattern language: what a text that is a pattern matches. -/
structure PatternEngine where
  compile? : String → Option (String → Bool)

/-- An operator of predicates. -/
inductive Operator where
  /-- The test does not hold. -/
  | negation
  | comparison (c : Comparison)
  /-- A string has a match for a pattern. -/
  | pattern (engine : PatternEngine)
  /-- An operator that an application adds, by its test for an operand or the error that refuses it.
  It may look names up in the resolver that a predicate is compiled against, and what it finds is
  part of what it makes of the operand. -/
  | custom (compile : Predicate → Except CompileError Test)
deriving Inhabited

/-- Whether an operator is none that an application adds. -/
def Operator.IsBuiltin : Operator → Prop
  | .custom _ => False
  | _ => True

/-- The name of the pattern operator in messages. -/
def patternSymbol : String := "~"

end Reshape
