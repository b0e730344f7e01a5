import Reshape.Query.Parser
import Reshape.Query.TreeText
import Reshape.Vocabulary.Resolver

/-!
# Compiling predicates

A predicate becomes a test of a value that may be absent. Absence is unequal to everything,
compares to nothing and matches nothing, so only a negation or an empty conjunction holds of it.

A key of a conjunction that is no operator says which part of the value its predicate is about: a
field of an object, or an element of an array when the key is a whole number. Null has null for
every part; other terminal values have no parts.
-/

namespace Reshape

/-- The part of a value that a key of a conjunction is about. -/
def Value.part? (v : Value) (key : String) : Option Value :=
  match v with
  | .null => some .null
  | .object _ => v.get? key
  | .array _ => (int64OfText? key).bind v.at?
  | _ => none

/-- Holds where a test does not. -/
def Test.negated (test : Test) : Test := fun v => !test v

/-- Holds where a test holds of the part of the value that a key is about. -/
def Test.ofPart (test : Test) (key : String) : Test := fun v => test (v.bind (Value.part? · key))

/-- The literal an operator compares with; only equality holds one. -/
def literalOperand (operator : String) : Predicate → Except CompileError Value
  | .equals literal => .ok literal
  | .all _ => refuse (.invalidOperand operator .object)
  | .any _ => refuse (.invalidOperand operator .array)

/-- The test of a comparison with its operand. -/
def Comparison.compile (c : Comparison) (operand : Predicate) : Except CompileError Test := do
  let literal ← literalOperand c.symbol operand
  return fun v => (v.bind (Value.compare? · literal)).any c.accepts

/-- The test of the pattern operator with its operand. -/
def PatternEngine.compile (engine : PatternEngine) (operand : Predicate) :
    Except CompileError Test := do
  match ← literalOperand patternSymbol operand with
  | .string text =>
    match engine.compile? text with
    | some isMatch => return fun v => (v.bind Value.toString?).any isMatch
    | none => refuse (.invalidPattern text)
  | literal => refuse (.invalidOperand patternSymbol (.noPattern literal.compact))

namespace Predicate

def isAny : Predicate → Bool
  | .any _ => true
  | _ => false

mutual

/-- The test that a predicate stands for. -/
def compile (r : Resolver) : Predicate → Except CompileError Test
  | .equals expected => .ok fun v => v.any (Value.equal · expected)
  | .all entries => do
    let tests ← compileEntries r entries
    return fun v => tests.all (· v)
  | .any alternatives => do
    let tests ← compileAlternatives r alternatives
    return fun v => tests.any (· v)

/-- The tests of the entries of a conjunction. -/
def compileEntries (r : Resolver) : List (String × Predicate) → Except CompileError (List Test)
  | [] => .ok []
  | (key, p) :: entries => do
    let test ← located key <|
      match r.operator? key with
      | some .negation => (compile r p).map Test.negated
      | some (.comparison c) => c.compile p
      | some (.pattern engine) => engine.compile p
      | some (.custom test) => test p
      | none => (compile r p).map (Test.ofPart · key)
    return test :: (← compileEntries r entries)

/-- The tests of the alternatives of a disjunction, none of which may be a disjunction itself. -/
def compileAlternatives (r : Resolver) : List Predicate → Except CompileError (List Test)
  | [] => .ok []
  | p :: ps => do
    if p.isAny then refuse (.nestedDisjunction (TreeText.predicate p))
    else
      let test ← compile r p
      return test :: (← compileAlternatives r ps)

end

end Predicate

/-- Parses and compiles a predicate. -/
def compilePredicate (r : Resolver) (v : Value) : Except CompileError Test := do
  (← Predicate.parse v).compile r

end Reshape
