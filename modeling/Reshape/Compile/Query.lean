import Reshape.Compile.Selector
import Reshape.Vocabulary.Standard

/-!
# Queries

`Query.compile` turns a value into a query, and `Query.apply` runs it. All errors arise in
compiling; running a query never fails, it only may have no output.

A query is compiled against any resolver. `Resolver.standard` is the one that an application has
without adding anything to it.
-/

namespace Reshape

/-- A compiled query. -/
structure Query where
  source : ReadFrom
  mapper : Mapper
  /-- What planning its nodes gave. -/
  notices : List Notice

namespace Query

/-- Parses and compiles a query. -/
def compile (r : Resolver) (v : Value) : Except CompileError Query := do
  let selector ← Selector.parse v
  let compiled ← selector.compile r
  compiled.withoutDirectives .topLevel
  return ⟨compiled.source, compiled.mapper, compiled.notices⟩

/-- The output for an input; absent when the input is filtered out or what it selects is absent. -/
def apply (q : Query) (input : Value) : Option Value :=
  match q.source with
  | .excluded => none
  | .same => q.mapper (some input)
  | .key k => q.mapper (input.index? k)

end Query

end Reshape
