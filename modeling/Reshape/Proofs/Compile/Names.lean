import Reshape.Compile.Query
import Reshape.Proofs.Compile.Basic
import Reshape.Proofs.Query.Names
import Reshape.Value.Identity

/-!
# Names that compiling asks about

Compiling a query asks its resolver about names in the query and about nothing else. Two resolvers
that agree on the strings of a query therefore compile it to the same or refuse it with the same
error (`Query.compile_eq_of_agreeOn`), however they differ elsewhere. Arguments of calls are parsed
only in compiling, which is why the induction is on the weight and why all strings of an argument
count. An operator that an application adds can look up names that no query writes, and what it
found is part of it. Only for built-in operators does it follow from the names of the query alone
that two resolvers have the same.

A scope of several tables is no more than the one table that holds, for each name, the entry of the
nearest table that has it.
-/

namespace Reshape

/-- Whether two resolvers say the same of some names. -/
structure Resolver.AgreeOn (names : List String) (r r' : Resolver) : Prop where
  function : ∀ name ∈ names, r.function? name = r'.function? name
  aggregation : ∀ name ∈ names, r.aggregation? name = r'.aggregation? name
  operator : ∀ name ∈ names, r.operator? name = r'.operator? name
  key : ∀ name ∈ names, r.key name = r'.key name

open Resolver (AgreeOn)

variable {r r' : Resolver}

theorem Resolver.AgreeOn.mono {names others : List String} (h : AgreeOn others r r')
    (hsub : names ⊆ others) : AgreeOn names r r' where
  function name hname := h.function name (hsub hname)
  aggregation name hname := h.aggregation name (hsub hname)
  operator name hname := h.operator name (hsub hname)
  key name hname := h.key name (hsub hname)

theorem Resolver.AgreeOn.append {names others : List String}
    (h : AgreeOn (names ++ others) r r') : AgreeOn names r r' ∧ AgreeOn others r r' :=
  ⟨h.mono (List.subset_append_left _ _), h.mono (List.subset_append_right _ _)⟩

/-- Two computations that go on alike after the same start are the same. -/
theorem bind_congr_of_ok {ε α β : Type} {x : Except ε α} {f g : α → Except ε β}
    (h : ∀ a, x = .ok a → f a = g a) : (x >>= f) = x >>= g := by
  cases x with
  | error e => rfl
  | ok a => exact h a rfl

/-! ## Predicates -/

namespace Predicate

mutual

theorem compile_congr (p : Predicate) (h : AgreeOn p.names r r') : p.compile r = p.compile r' := by
  match p with
  | .equals expected => rfl
  | .all entries => rw [compile, compile, compileEntries_congr entries h]
  | .any alternatives => rw [compile, compile, compileAlternatives_congr alternatives h]

theorem compileEntries_congr (entries : List (String × Predicate))
    (h : AgreeOn (entriesNames entries) r r') :
    compileEntries r entries = compileEntries r' entries := by
  match entries with
  | [] => rfl
  | (key, p) :: entries =>
    have hkey := h.operator key List.mem_cons_self
    obtain ⟨hp, hentries⟩ := (h.mono (List.subset_cons_self key _)).append
    rw [compileEntries, compileEntries, hkey, compile_congr p hp,
      compileEntries_congr entries hentries]

theorem compileAlternatives_congr (alternatives : List Predicate)
    (h : AgreeOn (alternativesNames alternatives) r r') :
    compileAlternatives r alternatives = compileAlternatives r' alternatives := by
  match alternatives with
  | [] => rfl
  | p :: alternatives =>
    obtain ⟨hp, halternatives⟩ := h.append
    rw [compileAlternatives, compileAlternatives, compile_congr p hp,
      compileAlternatives_congr alternatives halternatives]

end

end Predicate

theorem compileFilter_congr (filter : Option Predicate) (h : AgreeOn (filterNames filter) r r') :
    compileFilter r filter = compileFilter r' filter := by
  cases filter with
  | none => rfl
  | some p => rw [compileFilter, compileFilter, p.compile_congr h]

/-! ## Selectors -/

mutual

/-- Resolvers that agree on the names in a selector compile it alike. -/
theorem Selector.compile_congr (s : Selector) (h : AgreeOn s.names r r') :
    s.compile r = s.compile r' := by
  match s with
  | .exclude | .copy | .sort _ => rw [Selector.compile, Selector.compile]
  | .named name =>
    have hname : name ∈ (Selector.named name).names := List.mem_singleton_self name
    rw [Selector.compile, Selector.compile, h.aggregation name hname, h.function name hname]
  | .pipeline p => rw [Selector.compile, Selector.compile, Pipeline.compile_congr p h]
  | .fields f => rw [Selector.compile, Selector.compile, FieldSelector.compile_congr f h]
termination_by s.weight
decreasing_by all_goals simp only [Selector.weight]; omega

theorem Pipeline.compile_congr (p : Pipeline) (h : AgreeOn p.names r r') :
    p.compile r = p.compile r' := by
  match p with
  | .identity | .access _ | .constant _ => rw [Pipeline.compile, Pipeline.compile]
  | .nested f => rw [Pipeline.compile, Pipeline.compile, FieldSelector.compile_congr f h]
  | .call name args =>
    have hname : name ∈ (Pipeline.call name args).names := List.mem_cons_self
    have hargs : AgreeOn (itemsStrings args) r r' := h.mono (List.subset_cons_self name _)
    have hrest : compileRest r args = compileRest r' args := by
      rw [compileRest_eq, compileRest_eq]
      refine bind_congr_of_ok fun s hs => ?_
      have hweight := Selector.weight_le_of_parseRest hs
      exact Selector.compile_congr s (hargs.mono (Selector.names_subset_of_parseRest args hs))
    rw [Pipeline.compile, Pipeline.compile, h.function name hname, h.aggregation name hname,
      compileArguments_congr args hargs, hrest]
  | .chain head tail =>
    obtain ⟨hhead, htail⟩ := h.append
    rw [Pipeline.compile, Pipeline.compile, Selector.compile_congr head hhead,
      Selector.compile_congr tail htail]
termination_by p.weight
decreasing_by all_goals simp only [Pipeline.weight]; omega

theorem compileArguments_congr (args : List Value) (h : AgreeOn (itemsStrings args) r r') :
    compileArguments r args = compileArguments r' args := by
  match args with
  | [] => rw [compileArguments, compileArguments]
  | arg :: args =>
    obtain ⟨harg, hargs⟩ := h.append
    rw [compileArguments_cons, compileArguments_cons, compileArguments_congr args hargs]
    split
    · rfl
    case h_2 elements hreads =>
      have hweight := Value.itemsWeight_le_of_readElements? hreads
      rw [Value.eq_array_of_readElements? hreads] at harg
      refine bind_congr_of_ok fun p hp => ?_
      have hpweight := Pipeline.weight_le_of_parse elements hp
      rw [Pipeline.compile_congr p (harg.mono (Pipeline.names_subset_of_parse elements hp))]
termination_by 2 + itemsWeight args
decreasing_by all_goals simp only [itemsWeight]; omega

theorem FieldSelector.compile_congr (f : FieldSelector) (h : AgreeOn f.names r r') :
    f.compile r = f.compile r' := by
  match f with
  | .mk fields remaining filter =>
    obtain ⟨hselectors, hfilter⟩ := h.append
    obtain ⟨hfields, hremaining⟩ := hselectors.append
    rw [FieldSelector.compile, FieldSelector.compile, compileEntries_congr fields hfields,
      compileRemaining_congr remaining hremaining, compileFilter_congr filter hfilter]
termination_by f.weight
decreasing_by all_goals simp only [FieldSelector.weight]; omega

theorem compileEntries_congr (fields : List (String × Selector))
    (h : AgreeOn (selectorsNames fields) r r') :
    compileEntries r fields = compileEntries r' fields := by
  match fields with
  | [] => rw [compileEntries, compileEntries]
  | (key, s) :: fields =>
    have hkey := h.key key List.mem_cons_self
    obtain ⟨hs, hfields⟩ := (h.mono (List.subset_cons_self key _)).append
    rw [compileEntries, compileEntries, hkey, Selector.compile_congr s hs,
      compileEntries_congr fields hfields]
termination_by entriesWeight fields
decreasing_by all_goals simp only [entriesWeight]; omega

theorem compileRemaining_congr (remaining : Option Selector)
    (h : AgreeOn (remainingNames remaining) r r') :
    compileRemaining r remaining = compileRemaining r' remaining := by
  match remaining with
  | none => rw [compileRemaining, compileRemaining]
  | some s => rw [compileRemaining, compileRemaining, Selector.compile_congr s h]
termination_by remainingWeight remaining
decreasing_by all_goals simp only [remainingWeight]; omega

end

/-! ## Scopes -/

section Scopes

variable {α : Type}

/-- Whether a name means something in the nearest table of a scope that has it. -/
def Scope.Nearest (column : NameTable → List (String × α)) (s : Scope) (name : String)
    (meaning : α) : Prop :=
  ∃ before t after, s = before ++ t :: after ∧ (column t).lookup name = some meaning ∧
    ∀ u ∈ before, (column u).lookup name = none

theorem Scope.nearest_iff {column : NameTable → List (String × α)} {s : Scope} {name : String}
    {meaning : α} : s.Nearest column name meaning ↔
      s.findSome? (fun t => (column t).lookup name) = some meaning :=
  List.findSome?_eq_some_iff.symm

/-- A table that holds what is nearest in a scope is asked to the same effect. -/
theorem findSome?_eq_of_nearest {column : NameTable → List (String × α)} {s : Scope}
    {t : NameTable} (h : ∀ name a, (column t).lookup name = some a ↔ s.Nearest column name a)
    (name : String) : s.findSome? (fun t => (column t).lookup name) =
      [t].findSome? fun t => (column t).lookup name := by
  rw [List.findSome?_singleton]
  exact Option.ext fun a => (Scope.nearest_iff.symm.trans (h name a).symm)

theorem lookup_flatMap (column : NameTable → List (String × α)) (s : Scope) (name : String) :
    (s.flatMap column).lookup name = s.findSome? fun t => (column t).lookup name := by
  induction s with
  | nil => rfl
  | cons t s ih =>
    rw [List.flatMap_cons, List.lookup_append, ih, List.findSome?_cons]
    cases (column t).lookup name <;> rfl

end Scopes

/-- Whether a table holds for each name what it means in the nearest table of a scope that has it,
for functions, aggregations and operators separately. -/
structure NameTable.Flattens (t : NameTable) (s : Scope) : Prop where
  functions : ∀ name f, t.functions.lookup name = some f ↔ s.Nearest functions name f
  aggregations : ∀ name a, t.aggregations.lookup name = some a ↔ s.Nearest aggregations name a
  operators : ∀ name o, t.operators.lookup name = some o ↔ s.Nearest operators name o

namespace Scope

/-- The entries of all tables of a scope, those of the nearest first. -/
def flattened (s : Scope) : NameTable :=
  ⟨s.flatMap (·.functions), s.flatMap (·.aggregations), s.flatMap (·.operators)⟩

theorem flattens_flattened (s : Scope) : s.flattened.Flattens s where
  functions name f := by rw [nearest_iff, ← lookup_flatMap]; rfl
  aggregations name a := by rw [nearest_iff, ← lookup_flatMap]; rfl
  operators name o := by rw [nearest_iff, ← lookup_flatMap]; rfl

/-- A scope and the one table that holds what is nearest in it answer alike. -/
theorem resolver_eq_of_flattens {s : Scope} {t : NameTable} (h : t.Flattens s) :
    s.resolver = resolver [t] := by
  have hfunctions : s.function? = function? [t] := funext (findSome?_eq_of_nearest h.functions)
  have haggregations : s.aggregation? = aggregation? [t] :=
    funext (findSome?_eq_of_nearest h.aggregations)
  have hoperators : s.operator? = operator? [t] := funext (findSome?_eq_of_nearest h.operators)
  rw [resolver, resolver, hfunctions, haggregations, hoperators]

end Scope

/-! ## Queries -/

/-- Compiling depends on the names in a query only. Two resolvers of built-in operators that agree
on all its strings refuse it with the same error or compile it to the same query. A scope of any
tables compiles it like one table that holds for each name the entry of the nearest table that has
it, and there is such a table. -/
theorem Query.compile_eq_of_agreeOn (v : Value) :
    (∀ r r' : Resolver, r.HasBuiltinOperators → r'.HasBuiltinOperators → AgreeOn v.strings r r' →
        compile r v = compile r' v) ∧
      ∀ s : Scope, s.flattened.Flattens s ∧
        ∀ t : NameTable, t.Flattens s → compile s.resolver v = compile (Scope.resolver [t]) v := by
  constructor
  · intro r r' _ _ h
    refine bind_congr_of_ok fun s hs => ?_
    rw [s.compile_congr (h.mono (Selector.names_subset_of_parse v hs))]
  · intro s
    exact ⟨s.flattens_flattened, fun t h => by rw [Scope.resolver_eq_of_flattens h]⟩

/-- The length of a name is found by a resolver that knows `length` and nothing else. A nearer table
that gives `length` another meaning is the one that counts. -/
theorem Query.lengths_by_two_resolvers :
    let query := Value.object [("n", .array [.string "length", .array [.string "name"]])]
    let ann := Value.object [("name", .string "Ann")]
    let small := Scope.resolver [NameTable.empty.withFunction "length" .length]
    let nothing := Transform.custom fun _ => .null
    let scope : Scope := [NameTable.empty.withFunction "length" nothing, .builtins]
    Resolver.standard.HasBuiltinOperators ∧ small.HasBuiltinOperators ∧
      AgreeOn query.strings .standard small ∧ small.function? "abs" = none ∧
      compile .standard query = compile small query ∧
      (∃ q, compile small query = .ok q ∧ q.apply ann = some (.object [("n", .int 3)])) ∧
      scope.flattened.functions.lookup "length" = some nothing ∧
      compile scope.resolver query = compile (Scope.resolver [scope.flattened]) query := by
  intro query ann small nothing scope
  have hagree : AgreeOn query.strings .standard small := by
    have hstrings : query.strings = ["n", "length", "name"] := rfl
    rw [hstrings]
    constructor <;> intro name hname <;>
      simp only [List.mem_cons, List.not_mem_nil, or_false] at hname <;>
      rcases hname with rfl | rfl | rfl <;> rfl
  let call := Pipeline.call "length" [.array [.string "name"]]
  let length : Mapper := fun v => v.map fun v => Transform.length.apply ([Value.null].set 0 v)
  let entries : List Entry := [.field ⟨.name "n", .name "name", length, none, none⟩]
  let mapper : Mapper := fun v => v.bind (Node.plan entries .unspecified none).apply
  have hparse : Selector.parse query = .ok (.fields (.mk [("n", .pipeline call)] none none)) := rfl
  have hlength : small.function? "length" = some .length := rfl
  have hn : small.key "n" = .name "n" := by decide
  have hcompile : compile small query = .ok ⟨.same, mapper, Node.planNotices entries⟩ := by
    simp [compile, hparse, call, length, entries, mapper, Selector.compile, Pipeline.compile,
      FieldSelector.compile, compileEntries, compileRemaining, compileFilter, compileArguments_name,
      hlength, hn, located, checkDestination, Compiled.toEntry, Compiled.reading,
      Compiled.withoutDirectives, Transform.call, Argument.read?, Argument.template, bind,
      Except.bind, pure, Except.pure]
  have hstandard := Resolver.standard_hasBuiltinOperators
  have hsmall : small.HasBuiltinOperators :=
    Scope.hasBuiltinOperators (List.forall_mem_singleton.2 (List.forall_mem_nil _))
  obtain ⟨hsame, hscopes⟩ := compile_eq_of_agreeOn query
  obtain ⟨hflattens, hscope⟩ := hscopes scope
  exact ⟨hstandard, hsmall, hagree, rfl, hsame _ _ hstandard hsmall hagree,
    ⟨_, hcompile, by decide +kernel⟩, rfl, hscope _ hflattens⟩

end Reshape
