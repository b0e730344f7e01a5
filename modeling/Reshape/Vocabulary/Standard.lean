import Reshape.Decimal.Float
import Reshape.Pattern.Match
import Reshape.Pattern.Parser
import Reshape.Vocabulary.Resolver

/-!
# The standard vocabulary

The names that every resolver starts with, and what they mean. Only here is it decided with which
decimals the built-in folds and functions compute, and which patterns the built-in operator reads.
-/

namespace Reshape

/-- The functions every resolver starts with, by name. -/
def Transform.builtins : List (String × Transform) := [
  ("abs", .abs), ("uppercase", .uppercase), ("lowercase", .lowercase), ("trim", .trim),
  ("length", .length), ("round", .round .standard), ("floor", .floor), ("ceil", .ceil),
  ("concat", .concat), ("default", .default)]

/-- The aggregations every resolver starts with, by name. -/
def Aggregation.builtins : List (String × Aggregation) := [
  ("group", .group), ("sum", .fold (.sum .standard)), ("values", .fold .values),
  ("count", .fold .count), ("avg", .fold (.avg .standard)), ("min", .fold .min),
  ("max", .fold .max), ("first", .fold .first), ("last", .fold .last)]

/-- The patterns of `Pattern`. -/
def PatternEngine.standard : PatternEngine := ⟨fun text => (Pattern.parse? text).map (·.isMatch)⟩

/-- The operators every resolver starts with, by name. -/
def Operator.builtins : List (String × Operator) := [
  ("!", .negation), ("<", .comparison .less), ("<=", .comparison .atMost),
  (">=", .comparison .atLeast), (">", .comparison .greater), (patternSymbol, .pattern .standard)]

/-- The built-in functions, aggregations and operators. -/
def NameTable.builtins : NameTable :=
  ⟨Transform.builtins, Aggregation.builtins, Operator.builtins⟩

/-- The resolver that knows the built-in names. -/
def Resolver.standard : Resolver := Scope.resolver [.builtins]

theorem Resolver.standard_hasBuiltinOperators : standard.HasBuiltinOperators := by
  refine Scope.hasBuiltinOperators (List.forall_mem_singleton.2 ?_)
  simp only [NameTable.builtins, Operator.builtins, List.forall_mem_cons]
  exact ⟨trivial, trivial, trivial, trivial, trivial, trivial, List.forall_mem_nil _⟩

end Reshape
