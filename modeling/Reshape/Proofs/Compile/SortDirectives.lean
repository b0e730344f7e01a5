import Reshape.Proofs.Compile.Basic
import Reshape.Proofs.Compile.Directives
import Reshape.Proofs.Node.Directives

/-!
# Selectors without their sort directives

A sort directive is written as a whole number in the place of a selector: alone, behind the name of
an aggregation, or at an end of a chain. `Value.withoutSort` takes it off a selector as it is
written, with `true`, which copies, in the place of the number. The arguments of a function and the
selectors inside an object selector are no such places.

What is left of a selector that compiles also compiles, to the same without the directive.
-/

namespace Reshape

variable {r : Resolver}

/-! ## As written -/

/-- Whether the first element of a pipeline names a function that the others are arguments of. -/
def Resolver.callsFunction (r : Resolver) (first : Value) : Bool :=
  match first.toString? with
  | some name => (r.function? name).isSome
  | none => false

theorem Resolver.callsFunction_eq {first : Value} {name : String}
    (h : first.toString? = some name) :
    r.callsFunction first = (r.function? name).isSome := by
  rw [callsFunction, h]

mutual

/-- A written selector with its sort directive, if it has one, replaced by a copy. -/
def Value.withoutSort (r : Resolver) : Value → Value
  | .int _ => .bool true
  | .array elements => .array (elementsWithoutSort r elements)
  | v => v

/-- The elements of a written pipeline without its sort directive. -/
def elementsWithoutSort (r : Resolver) : List Value → List Value
  | first :: second :: rest =>
    if r.callsFunction first then first :: second :: rest
    else
      first.withoutSort r ::
        if rest.isEmpty then [second.withoutSort r] else elementsWithoutSort r (second :: rest)
  | elements => elements

end

/-- What stands behind the first element of a pipeline that calls no function, without its sort
directive. -/
def restWithoutSort (r : Resolver) : List Value → List Value
  | [single] => [single.withoutSort r]
  | rest => elementsWithoutSort r rest

theorem elementsWithoutSort_cons {first : Value} {rest : List Value} (hrest : rest ≠ [])
    (h : r.callsFunction first = false) : elementsWithoutSort r (first :: rest) =
      first.withoutSort r :: restWithoutSort r rest := by
  rcases rest with _ | ⟨second, _ | ⟨third, rest⟩⟩
  · exact absurd rfl hrest
  · rw [elementsWithoutSort, h]
    rfl
  · rw [elementsWithoutSort, h]
    rfl

theorem elementsWithoutSort_of_callsFunction {first : Value} {rest : List Value}
    (h : r.callsFunction first = true) :
    elementsWithoutSort r (first :: rest) = first :: rest := by
  cases rest with
  | nil => rw [elementsWithoutSort]; simp
  | cons second rest => rw [elementsWithoutSort, if_pos h]

theorem toString?_withoutSort (v : Value) : (v.withoutSort r).toString? = v.toString? := by
  cases v <;> rw [Value.withoutSort] <;> first | rfl | simp

theorem length_elementsWithoutSort (elements : List Value) :
    (elementsWithoutSort r elements).length = elements.length := by
  induction elements with
  | nil => rw [elementsWithoutSort]; simp
  | cons first rest ih =>
    rcases rest with _ | ⟨second, rest⟩
    · rw [elementsWithoutSort]; simp
    · rw [elementsWithoutSort]
      split
      · rfl
      · split
        · simp_all
        · rw [List.length_cons, ih]; rfl

theorem restWithoutSort_ne_nil {rest : List Value} (h : rest ≠ []) :
    restWithoutSort r rest ≠ [] := by
  unfold restWithoutSort
  split
  · simp
  · rw [← List.length_pos_iff, length_elementsWithoutSort]
    exact List.length_pos_iff.2 h

/-! ## Compiled -/

/-- A compiled selector without its sort directive. -/
def Compiled.withoutSort (c : Compiled) : Compiled := { c with sort := none }

theorem Compiled.withoutSort_of_eq_none {c : Compiled} (h : c.sort = none) : c.withoutSort = c := by
  obtain ⟨source, mapper, aggregation, sort, notices⟩ := c
  cases h
  rfl

/-- A chain hands on the directives of both ends and depends on them in nothing else. -/
theorem Compiled.chain_withoutSort (head tail : Compiled) :
    chain head.withoutSort tail.withoutSort = (chain head tail).withoutSort :=
  rfl

/-- Whether the second selector compiles to what the first does, but for the sort directive. -/
def Selector.LosesSort (r : Resolver) (s s' : Selector) : Prop :=
  ∀ c, s.compile r = .ok c → s'.compile r = .ok c.withoutSort

theorem Selector.losesSort_self {s : Selector} (h : ∀ c, s.compile r = .ok c → c.sort = none) :
    s.LosesSort r s := by
  intro c hc
  rw [hc, c.withoutSort_of_eq_none (h c hc)]

theorem Selector.losesSort_chain {head head' tail tail' : Selector} (hhead : head.LosesSort r head')
    (htail : tail.LosesSort r tail') :
    (Selector.pipeline (.chain head tail)).LosesSort r (.pipeline (.chain head' tail')) := by
  intro c h
  rw [Selector.compile] at h
  obtain ⟨chead, ctail, hc, hstart, hc', hend, rfl⟩ := Pipeline.compile_chain_eq_ok.1 h
  rw [Selector.compile, ← chead.chain_withoutSort]
  exact Pipeline.compile_chain_eq_ok.2
    ⟨_, _, hhead chead hc, hstart, htail ctail hc', hend, rfl⟩

/-- The name of an aggregation in front of what loses its directive. -/
theorem Selector.losesSort_call {name : String} {args args' : List Value}
    (hfunction : r.function? name = none)
    (h : ∀ s, Selector.parseRest args = .ok s →
      ∃ s', Selector.parseRest args' = .ok s' ∧ s.LosesSort r s') :
    (Selector.pipeline (.call name args)).LosesSort r (.pipeline (.call name args')) := by
  intro c hc
  rw [Selector.compile] at hc
  obtain ⟨f, compiled, hfunction', -⟩ |
    ⟨a, s, rest, -, haggregation, hparsed, hs, hnone, hsource, rfl⟩ :=
    Pipeline.compile_call_eq_ok.1 hc
  · cases hfunction.symm.trans hfunction'
  · obtain ⟨s', hparsed', hloses⟩ := h s hparsed
    rw [Selector.compile]
    exact Pipeline.compile_call_eq_ok.2 (.inr ⟨a, s', rest.withoutSort, hfunction, haggregation,
      hparsed', hloses rest hs, hnone, hsource, rfl⟩)

theorem Pipeline.sort_of_parseAccessor {v : Value} {p : Pipeline}
    (h : Pipeline.parseAccessor v = .ok p) {c : Compiled} (hc : p.compile r = .ok c) :
    c.sort = none := by
  unfold Pipeline.parseAccessor at h
  split at h
  case h_4 => exact absurd h refuse_ne_ok
  case h_6 => exact absurd h refuse_ne_ok
  case h_5 fields =>
    obtain ⟨f, -, rfl⟩ := map_eq_ok.1 h
    rw [Pipeline.compile] at hc
    exact (FieldSelector.directives_of_compile hc).2
  all_goals
    cases h
    rw [Pipeline.compile] at hc
    cases hc
    rfl

/-- A pipeline that calls a function carries no sort directive. -/
theorem Pipeline.sort_of_callsFunction {first : Value} {rest : List Value} {p : Pipeline}
    {c : Compiled} (hcalls : r.callsFunction first = true) (hrest : rest ≠ [])
    (h : Pipeline.parse (first :: rest) = .ok p) (hc : p.compile r = .ok c) : c.sort = none := by
  rw [Pipeline.parse_cons first hrest] at h
  cases hname : first.toString? with
  | none => simp [Resolver.callsFunction, hname] at hcalls
  | some name =>
    rw [r.callsFunction_eq hname] at hcalls
    obtain ⟨f, hfunction⟩ := Option.isSome_iff_exists.1 hcalls
    rw [hname] at h
    cases h
    rw [Pipeline.compile] at hc
    simp only [hfunction] at hc
    obtain ⟨compiled, -, hc⟩ := bind_eq_ok.1 hc
    exact (Transform.directives_of_call hc).2

mutual

/-- A written selector that parses also does without its sort directive, and compiles to the same
without it. -/
theorem Selector.parse_withoutSort (v : Value) {s : Selector} (h : Selector.parse v = .ok s) :
    ∃ s', Selector.parse (v.withoutSort r) = .ok s' ∧ s.LosesSort r s' := by
  -- What carries no directive is left as it is.
  have hsame (hv : v.withoutSort r = v) (hs : ∀ c, s.compile r = .ok c → c.sort = none) :
      ∃ s', Selector.parse (v.withoutSort r) = .ok s' ∧ s.LosesSort r s' :=
    ⟨s, by rw [hv, h], Selector.losesSort_self hs⟩
  cases v with
  | null =>
    rw [Selector.parse] at h
    cases h
    refine hsame rfl fun c hc => ?_
    rw [Selector.compile] at hc
    cases hc
    rfl
  | bool b =>
    refine hsame rfl fun c hc => ?_
    cases b <;>
    · rw [Selector.parse] at h
      cases h
      rw [Selector.compile] at hc
      cases hc
      rfl
  | int n =>
    rw [Selector.parse] at h
    split at h
    · exact absurd h refuse_ne_ok
    · cases h
      refine ⟨.copy, by rw [Value.withoutSort, Selector.parse], fun c hc => ?_⟩
      rw [Selector.compile] at hc
      cases hc
      rw [Selector.compile]
      rfl
  | float x =>
    rw [Selector.parse] at h
    exact absurd h refuse_ne_ok
  | string name =>
    rw [Selector.parse] at h
    cases h
    refine hsame rfl fun c hc => ?_
    obtain ⟨a, -, rfl⟩ | ⟨f, -, -, rfl⟩ := Selector.compile_named_eq_ok.1 hc
    · rfl
    · rfl
  | array elements =>
    rw [Selector.parse] at h
    obtain ⟨p, hp, rfl⟩ := map_eq_ok.1 h
    obtain ⟨p', hp', hloses⟩ := Pipeline.parse_withoutSort elements hp
    refine ⟨.pipeline p', ?_, hloses⟩
    rw [Value.withoutSort, Selector.parse, hp']
    rfl
  | object fields =>
    rw [Selector.parse] at h
    obtain ⟨f, hf, rfl⟩ := map_eq_ok.1 h
    refine hsame rfl fun c hc => ?_
    rw [Selector.compile] at hc
    exact (FieldSelector.directives_of_compile hc).2

/-- The same for the elements of a pipeline. -/
theorem Pipeline.parse_withoutSort (elements : List Value) {p : Pipeline}
    (h : Pipeline.parse elements = .ok p) :
    ∃ p', Pipeline.parse (elementsWithoutSort r elements) = .ok p' ∧
      (Selector.pipeline p).LosesSort r (.pipeline p') := by
  have hsame (helements : elementsWithoutSort r elements = elements)
      (hp : ∀ c, p.compile r = .ok c → c.sort = none) :
      ∃ p', Pipeline.parse (elementsWithoutSort r elements) = .ok p' ∧
        (Selector.pipeline p).LosesSort r (.pipeline p') := by
    refine ⟨p, by rw [helements, h], Selector.losesSort_self fun c hc => ?_⟩
    rw [Selector.compile] at hc
    exact hp c hc
  match elements with
  | [] =>
    rw [Pipeline.parse] at h
    cases h
    refine hsame rfl fun c hc => ?_
    rw [Pipeline.compile] at hc
    cases hc
    rfl
  | [element] =>
    rw [Pipeline.parse] at h
    exact hsame rfl fun c hc => Pipeline.sort_of_parseAccessor h hc
  | first :: second :: rest =>
    -- The selector behind the first element.
    have hrest : ∀ s, Selector.parseRest (second :: rest) = .ok s →
        ∃ s', Selector.parseRest (restWithoutSort r (second :: rest)) = .ok s' ∧
          s.LosesSort r s' := by
      intro s hs
      rcases rest with _ | ⟨third, rest⟩
      · exact Selector.parse_withoutSort second hs
      · rw [Selector.parseRest_of_length_ne_one (by simp)] at hs
        obtain ⟨p, hp, rfl⟩ := map_eq_ok.1 hs
        obtain ⟨p', hp', hloses⟩ := Pipeline.parse_withoutSort (second :: third :: rest) hp
        refine ⟨.pipeline p', ?_, hloses⟩
        rw [restWithoutSort, Selector.parseRest_of_length_ne_one, hp']
        · rfl
        · rw [length_elementsWithoutSort]
          simp
        · simp
    cases hcalls : r.callsFunction first with
    | true =>
      exact hsame (elementsWithoutSort_of_callsFunction hcalls) fun c hc =>
        Pipeline.sort_of_callsFunction hcalls (by simp) h hc
    | false =>
      rw [elementsWithoutSort_cons (by simp) hcalls,
        Pipeline.parse_cons _ (restWithoutSort_ne_nil (by simp)), toString?_withoutSort]
      rw [Pipeline.parse_cons first (by simp)] at h
      cases hname : first.toString? with
      | some name =>
        rw [r.callsFunction_eq hname] at hcalls
        rw [hname] at h
        cases h
        exact ⟨_, rfl, Selector.losesSort_call (Option.not_isSome_iff_eq_none.1 (by simp [hcalls]))
          hrest⟩
      | none =>
        rw [hname] at h
        obtain ⟨head, hhead, h⟩ := bind_eq_ok.1 h
        obtain ⟨tail, htail, h⟩ := bind_eq_ok.1 h
        cases h
        obtain ⟨head', hhead', hlosesHead⟩ := Selector.parse_withoutSort first hhead
        obtain ⟨tail', htail', hlosesTail⟩ := hrest tail htail
        refine ⟨.chain head' tail', ?_, Selector.losesSort_chain hlosesHead hlosesTail⟩
        simp [hhead', htail', bind, Except.bind, pure, Except.pure]

end

end Reshape
