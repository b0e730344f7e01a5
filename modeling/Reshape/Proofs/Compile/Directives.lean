import Reshape.Proofs.Compile.Basic

/-!
# Selectors without their aggregation directives

`Selector.withoutAggregation` takes the aggregation directive off a selector and leaves everything
else as it was written: an aggregation's name becomes a copy, and of an aggregated pipeline the rest
is left. A directive may also come from either end of a chain. Selectors inside an object selector
or an argument keep their directives, they belong to other nodes.

What is left of a selector that compiles also compiles, to the same without the directive.
-/

namespace Reshape

variable {r : Resolver}

mutual

/-- The selector without its aggregation directive. -/
def Selector.withoutAggregation (r : Resolver) : Selector → Except CompileError Selector
  | .named name => .ok (if (r.aggregation? name).isSome then .copy else .named name)
  | .pipeline p => p.withoutAggregation r
  | s => .ok s

/-- The selector that is left of a pipeline without its aggregation directive. -/
def Pipeline.withoutAggregation (r : Resolver) : Pipeline → Except CompileError Selector
  | .call name args =>
    match r.function? name, r.aggregation? name with
    | none, some _ => Selector.parseRest args
    | _, _ => .ok (.pipeline (.call name args))
  | .chain head tail => do
    let head ← head.withoutAggregation r
    let tail ← tail.withoutAggregation r
    return .pipeline (.chain head tail)
  | p => .ok (.pipeline p)

end

namespace Compiled

/-- A compiled selector without its aggregation directive. -/
def withoutAggregation (c : Compiled) : Compiled := { c with aggregation := none }

theorem withoutAggregation_of_eq_none {c : Compiled} (h : c.aggregation = none) :
    c.withoutAggregation = c := by
  obtain ⟨source, mapper, aggregation, sort, notices⟩ := c
  cases h
  rfl

@[simp] theorem source_withoutAggregation (c : Compiled) :
    c.withoutAggregation.source = c.source := rfl

/-- A chain hands on the directives of both ends and depends on them in nothing else. -/
theorem chain_withoutAggregation (head tail : Compiled) :
    chain head.withoutAggregation tail.withoutAggregation = (chain head tail).withoutAggregation :=
  rfl

end Compiled

/-- An object selector brings no directive to the node it is a field of. -/
theorem FieldSelector.directives_of_compile {f : FieldSelector} {c : Compiled}
    (h : f.compile r = .ok c) : c.aggregation = none ∧ c.sort = none := by
  obtain ⟨fields, remaining, filter⟩ := f
  rw [FieldSelector.compile] at h
  obtain ⟨entries, -, h⟩ := bind_eq_ok.1 h
  obtain ⟨remaining, -, h⟩ := bind_eq_ok.1 h
  obtain ⟨test, -, h⟩ := bind_eq_ok.1 h
  cases h
  exact ⟨rfl, rfl⟩

/-- Neither does the call of a function. -/
theorem Transform.directives_of_call {f : Transform} {name : String} {written : List Value}
    {args : List Argument} {c : Compiled} (h : f.call name written args = .ok c) :
    c.aggregation = none ∧ c.sort = none := by
  unfold Transform.call at h
  split at h
  · split at h
    · exact absurd h refuse_ne_ok
    · cases h
      exact ⟨rfl, rfl⟩
  · exact absurd h refuse_ne_ok

mutual

/-- What is left of a selector without its aggregation directive compiles to the same without the
directive. -/
theorem Selector.compile_withoutAggregation (s : Selector) {c : Compiled}
    (h : s.compile r = .ok c) :
    ∃ s', s.withoutAggregation r = .ok s' ∧ s'.compile r = .ok c.withoutAggregation := by
  cases s with
  | exclude =>
    rw [Selector.compile] at h
    cases h
    exact ⟨.exclude, rfl, by rw [Selector.compile]; rfl⟩
  | copy =>
    rw [Selector.compile] at h
    cases h
    exact ⟨.copy, rfl, by rw [Selector.compile]; rfl⟩
  | sort priority =>
    rw [Selector.compile] at h
    cases h
    exact ⟨.sort priority, rfl, by rw [Selector.compile]; rfl⟩
  | named name =>
    obtain ⟨a, hagg, rfl⟩ | ⟨f, hagg, -, rfl⟩ := Selector.compile_named_eq_ok.1 h
    · refine ⟨.copy, by simp [Selector.withoutAggregation, hagg], ?_⟩
      rw [Selector.compile]
      rfl
    · exact ⟨.named name, by simp [Selector.withoutAggregation, hagg], h⟩
  | pipeline p =>
    rw [Selector.compile] at h
    obtain ⟨s', hs', hc⟩ := Pipeline.compile_withoutAggregation p h
    exact ⟨s', by rw [Selector.withoutAggregation, hs'], hc⟩
  | fields f =>
    have hc : c.aggregation = none := by
      rw [Selector.compile] at h
      exact (FieldSelector.directives_of_compile h).1
    exact ⟨.fields f, rfl, by rw [c.withoutAggregation_of_eq_none hc, h]⟩

/-- The same for a pipeline. -/
theorem Pipeline.compile_withoutAggregation (p : Pipeline) {c : Compiled}
    (h : p.compile r = .ok c) :
    ∃ s', p.withoutAggregation r = .ok s' ∧ s'.compile r = .ok c.withoutAggregation := by
  -- A pipeline that brings no directive is left as it is.
  have hsame (hp : p.withoutAggregation r = .ok (.pipeline p)) (hc : c.aggregation = none) :
      ∃ s', p.withoutAggregation r = .ok s' ∧ s'.compile r = .ok c.withoutAggregation :=
    ⟨.pipeline p, hp, by rw [Selector.compile, h, c.withoutAggregation_of_eq_none hc]⟩
  cases p with
  | identity =>
    rw [Pipeline.compile] at h
    cases h
    exact hsame rfl rfl
  | access key =>
    rw [Pipeline.compile] at h
    cases h
    exact hsame rfl rfl
  | constant v =>
    rw [Pipeline.compile] at h
    cases h
    exact hsame rfl rfl
  | nested f =>
    refine hsame rfl ?_
    rw [Pipeline.compile] at h
    exact (FieldSelector.directives_of_compile h).1
  | call name args =>
    obtain ⟨f, compiled, hfun, -, hcall⟩ |
      ⟨a, s', rest, hfun, hagg, hparse, hcompile, hnone, -, rfl⟩ := Pipeline.compile_call_eq_ok.1 h
    · exact hsame (by simp [Pipeline.withoutAggregation, hfun])
        (Transform.directives_of_call hcall).1
    · refine ⟨s', by simp [Pipeline.withoutAggregation, hfun, hagg, hparse], ?_⟩
      rw [hcompile, ← rest.withoutAggregation_of_eq_none hnone]
      rfl
  | chain head tail =>
    obtain ⟨chead, ctail, hhead, hstart, htail, hend, rfl⟩ := Pipeline.compile_chain_eq_ok.1 h
    obtain ⟨head', hhead', hchead⟩ := Selector.compile_withoutAggregation head hhead
    obtain ⟨tail', htail', hctail⟩ := Selector.compile_withoutAggregation tail htail
    refine ⟨.pipeline (.chain head' tail'), ?_, ?_⟩
    · simp [Pipeline.withoutAggregation, hhead', htail', bind, Except.bind, pure, Except.pure]
    · rw [Selector.compile, ← chead.chain_withoutAggregation]
      exact Pipeline.compile_chain_eq_ok.2 ⟨_, _, hchead, hstart, hctail, hend, rfl⟩

end

end Reshape
