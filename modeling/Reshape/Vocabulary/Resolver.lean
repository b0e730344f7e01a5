import Reshape.Value.Key
import Reshape.Vocabulary.Aggregation
import Reshape.Vocabulary.Operator
import Reshape.Vocabulary.Transform

/-!
# What names mean

A `Resolver` answers the four questions that compiling a query asks about names: which function,
which aggregation and which operator a name is, and which key a field name of an output stands for.
It is asked only then; a compiled query keeps what it was told.

Resolvers are made from name tables. A `Scope` lists tables from the nearest outward, and a name
means what the nearest table that has it says, for functions, aggregations and operators
separately.
-/

namespace Reshape

/-- The meaning of names. -/
structure Resolver where
  function? : String → Option Transform
  aggregation? : String → Option Aggregation
  operator? : String → Option Operator
  /-- The key that a field name of an output stands for. -/
  key : String → Key

/-- Names with their meanings, latest first: a name added again takes its new meaning. -/
structure NameTable where
  functions : List (String × Transform)
  aggregations : List (String × Aggregation)
  operators : List (String × Operator)

namespace NameTable

/-- No names. -/
def empty : NameTable := ⟨[], [], []⟩

def withFunction (t : NameTable) (name : String) (f : Transform) : NameTable :=
  { t with functions := (name, f) :: t.functions }

def withAggregation (t : NameTable) (name : String) (a : Aggregation) : NameTable :=
  { t with aggregations := (name, a) :: t.aggregations }

def withOperator (t : NameTable) (name : String) (o : Operator) : NameTable :=
  { t with operators := (name, o) :: t.operators }

end NameTable

/-- Name tables, the nearest first. -/
abbrev Scope := List NameTable

namespace Scope

def function? (s : Scope) (name : String) : Option Transform :=
  s.findSome? (·.functions.lookup name)

def aggregation? (s : Scope) (name : String) : Option Aggregation :=
  s.findSome? (·.aggregations.lookup name)

def operator? (s : Scope) (name : String) : Option Operator :=
  s.findSome? (·.operators.lookup name)

/-- The resolver of a scope. Field names that are whole numbers stand for positions. -/
def resolver (s : Scope) : Resolver :=
  { function? := s.function?
    aggregation? := s.aggregation?
    operator? := s.operator?
    key := Key.ofText }

end Scope

namespace Resolver

/-- The same names with every field name standing for itself. -/
def withNamedKeys (r : Resolver) : Resolver := { r with key := .name }

/-- Whether every operator is a built-in one, whatever its name. -/
def HasBuiltinOperators (r : Resolver) : Prop := ∀ name o, r.operator? name = some o → o.IsBuiltin

end Resolver

/-- The operators of a scope are built-in ones if those of its tables are. -/
theorem Scope.hasBuiltinOperators {s : Scope}
    (h : ∀ t ∈ s, ∀ entry ∈ t.operators, entry.2.IsBuiltin) : s.resolver.HasBuiltinOperators := by
  intro name o ho
  obtain ⟨t, ht, hlookup⟩ := List.exists_of_findSome?_eq_some ho
  obtain ⟨before, after, hentries, -⟩ := List.lookup_eq_some_iff.1 hlookup
  exact h t ht (name, o) (hentries ▸ List.mem_append_right before List.mem_cons_self)

end Reshape
