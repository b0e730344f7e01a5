import Reshape.Proofs.Compile.Directives
import Reshape.Vocabulary.Standard

/-!
# Directives along a pipeline

A selector brings its node one aggregation and one sort directive at most, but several may be
written along its pipeline: at the ends of chains and, behind the name of an aggregation, in what is
aggregated (`Selector.directives`, in written order). An aggregation with another one behind its
name is refused. A chain is not: of the aggregations along it the last is carried, of the sort
directives the first, and the others have no effect. So every directive is carried exactly when no
chain has directives of one kind at both its ends (`Selector.WithoutRivals`).
-/

namespace Reshape

/-- What a selector asks of the node that it is a field of. -/
inductive Directive where
  | aggregation (a : Aggregation)
  | sort (priority : Int64)

namespace Directive

def aggregation? : Directive → Option Aggregation
  | aggregation a => some a
  | sort _ => none

def sort? : Directive → Option Int64
  | aggregation _ => none
  | sort priority => some priority

/-- Whether two directives are of one kind, of which a field has one at most. -/
def Rivals : Directive → Directive → Prop
  | aggregation _, aggregation _ | sort _, sort _ => True
  | _, _ => False

end Directive

variable {r : Resolver}

/-! ## Where directives are written -/

mutual

/-- The directives along the pipeline of a selector. Those inside an object selector or an argument
belong to other nodes. -/
def Selector.directives (r : Resolver) : Selector → List Directive
  | .sort priority => [.sort priority]
  | .named name => (r.aggregation? name).toList.map .aggregation
  | .pipeline p => p.directives r
  | .exclude | .copy | .fields _ => []
termination_by s => s.weight
decreasing_by
  simp only [Selector.weight]
  omega

/-- The directives along a pipeline. -/
def Pipeline.directives (r : Resolver) : Pipeline → List Directive
  | .call name args =>
    match r.function? name, r.aggregation? name with
    | none, some aggregation =>
      match _parsed : Selector.parseRest args with
      | .ok rest => .aggregation aggregation :: rest.directives r
      | .error _ => [.aggregation aggregation]
    | _, _ => []
  | .chain head tail => head.directives r ++ tail.directives r
  | .identity | .access _ | .constant _ | .nested _ => []
termination_by p => p.weight
decreasing_by
  · have := Selector.weight_le_of_parseRest _parsed
    simp only [Pipeline.weight]
    omega
  all_goals simp only [Pipeline.weight]; omega

end

/-- The aggregations among the directives of a selector. -/
def Selector.aggregations (r : Resolver) (s : Selector) : List Aggregation :=
  (s.directives r).filterMap Directive.aggregation?

/-- The sort directives among them. -/
def Selector.sorts (r : Resolver) (s : Selector) : List Int64 :=
  (s.directives r).filterMap Directive.sort?

/-- Whether a selector is written along the pipeline of another one. -/
inductive Along (r : Resolver) (s : Selector) : Selector → Prop
  | here : Along r s s
  | head {head tail : Selector} (h : Along r s head) : Along r s (.pipeline (.chain head tail))
  | tail {head tail : Selector} (h : Along r s tail) : Along r s (.pipeline (.chain head tail))
  /-- Behind the name of an aggregation. -/
  | behind {name : String} {args : List Value} {a : Aggregation} {rest : Selector}
      (function : r.function? name = none) (aggregation : r.aggregation? name = some a)
      (parsed : Selector.parseRest args = .ok rest) (h : Along r s rest) :
      Along r s (.pipeline (.call name args))

/-- Whether no chain along the pipeline of a selector has directives of one kind at both ends. -/
def Selector.WithoutRivals (r : Resolver) (s : Selector) : Prop :=
  ∀ head tail, Along r (.pipeline (.chain head tail)) s →
    ∀ d ∈ head.directives r, ∀ e ∈ tail.directives r, ¬d.Rivals e

theorem Selector.directives_chain (head tail : Selector) :
    (Selector.pipeline (.chain head tail)).directives r =
      head.directives r ++ tail.directives r := by
  rw [Selector.directives, Pipeline.directives]

theorem Selector.directives_aggregated {name : String} {args : List Value} {a : Aggregation}
    {rest : Selector} (function : r.function? name = none)
    (aggregation : r.aggregation? name = some a) (parsed : Selector.parseRest args = .ok rest) :
    (Selector.pipeline (.call name args)).directives r = .aggregation a :: rest.directives r := by
  rw [Selector.directives, Pipeline.directives]
  simp only [function, aggregation]
  split
  case h_1 rest' parsed' => cases parsed.symm.trans parsed'; rfl
  case h_2 parsed' => cases parsed.symm.trans parsed'

/-- The directives of what is written along a pipeline are among its own. -/
theorem Along.sublist {s s' : Selector} (h : Along r s s') :
    (s.directives r).Sublist (s'.directives r) := by
  induction h with
  | here => exact List.Sublist.refl _
  | @head head tail _ ih =>
    rw [Selector.directives_chain]
    exact ih.trans (List.sublist_append_left _ _)
  | @tail head tail _ ih =>
    rw [Selector.directives_chain]
    exact ih.trans (List.sublist_append_right _ _)
  | behind function aggregation parsed _ ih =>
    rw [Selector.directives_aggregated function aggregation parsed]
    exact ih.trans (List.sublist_cons_self _ _)

theorem Selector.WithoutRivals.head {head tail : Selector}
    (h : (Selector.pipeline (.chain head tail)).WithoutRivals r) : head.WithoutRivals r :=
  fun _ _ along => h _ _ (.head along)

theorem Selector.WithoutRivals.tail {head tail : Selector}
    (h : (Selector.pipeline (.chain head tail)).WithoutRivals r) : tail.WithoutRivals r :=
  fun _ _ along => h _ _ (.tail along)

/-! ## Directives of one kind -/

theorem Directive.rivals_iff (d e : Directive) : d.Rivals e ↔
    (d.aggregation?.isSome ∧ e.aggregation?.isSome) ∨ (d.sort?.isSome ∧ e.sort?.isSome) := by
  cases d <;> cases e <;> simp [Rivals, aggregation?, sort?]

section Kinds

variable {α : Type} {kind : Directive → Option α} {ds es all : List Directive} {o o' : Option α}

/-- Two lists with at most one directive of a kind each, and not both with one, have at most one
together. Then it does not matter which list is asked first. -/
theorem filterMap_append_eq_toList (hds : ds.filterMap kind = o.toList)
    (hes : es.filterMap kind = o'.toList)
    (h : ∀ d ∈ ds, ∀ e ∈ es, ¬((kind d).isSome ∧ (kind e).isSome)) :
    (ds ++ es).filterMap kind = (o.or o').toList ∧ o.or o' = o'.or o := by
  rw [List.filterMap_append, hds, hes]
  cases o with
  | none => exact ⟨rfl, by rw [Option.none_or, Option.or_none]⟩
  | some a =>
    cases o' with
    | none => exact ⟨rfl, rfl⟩
    | some b =>
      have hamem : a ∈ ds.filterMap kind := hds ▸ Option.mem_toList.2 rfl
      have hbmem : b ∈ es.filterMap kind := hes ▸ Option.mem_toList.2 rfl
      obtain ⟨d, hd, ha⟩ := List.mem_filterMap.1 hamem
      obtain ⟨e, he, hb⟩ := List.mem_filterMap.1 hbmem
      exact absurd ⟨Option.isSome_of_eq_some ha, Option.isSome_of_eq_some hb⟩ (h d hd e he)

/-- Among directives of which at most one is of a kind, no two are. -/
theorem not_both_isSome (hsub : (ds ++ es).Sublist all) (hall : all.filterMap kind = o.toList)
    {d e : Directive} (hd : d ∈ ds) (he : e ∈ es) : ¬((kind d).isSome ∧ (kind e).isSome) := by
  rintro ⟨hdkind, hekind⟩
  obtain ⟨a, ha⟩ := Option.isSome_iff_exists.1 hdkind
  obtain ⟨b, hb⟩ := Option.isSome_iff_exists.1 hekind
  have hds := List.length_pos_of_mem (List.mem_filterMap.2 ⟨d, hd, ha⟩)
  have hes := List.length_pos_of_mem (List.mem_filterMap.2 ⟨e, he, hb⟩)
  have hlength := (hsub.filterMap kind).length_le
  have htoList := o.length_toList_le
  rw [List.filterMap_append, List.length_append, hall] at hlength
  omega

end Kinds

/-! ## Which directives are carried -/

/-- Whether a compiled selector carries of the directives along a pipeline the last aggregation and
the first sort directive, and all of them if no chain joins two of one kind. -/
structure Compiled.Carries (r : Resolver) (c : Compiled) (s : Selector) : Prop where
  aggregation : c.aggregation = (s.aggregations r).getLast?
  sort : c.sort = (s.sorts r).head?
  complete : s.WithoutRivals r →
    s.aggregations r = c.aggregation.toList ∧ s.sorts r = c.sort.toList

namespace Compiled

variable {c : Compiled} {s : Selector}

/-- What is written with one aggregation, one sort directive or neither carries it. -/
theorem carries_of_directives
    (haggregations : (s.directives r).filterMap Directive.aggregation? = c.aggregation.toList)
    (hsorts : (s.directives r).filterMap Directive.sort? = c.sort.toList) : c.Carries r s where
  aggregation := by
    rw [Selector.aggregations, haggregations]
    cases c.aggregation <;> rfl
  sort := by
    rw [Selector.sorts, hsorts]
    cases c.sort <;> rfl
  complete _ := ⟨haggregations, hsorts⟩

theorem carries_of_nil (hdirectives : s.directives r = [])
    (hnone : c.aggregation = none ∧ c.sort = none) : c.Carries r s := by
  refine carries_of_directives ?_ ?_
  · rw [hdirectives, hnone.1]
    rfl
  · rw [hdirectives, hnone.2]
    rfl

theorem Carries.chain {head tail : Compiled} {shead stail : Selector}
    (hhead : head.Carries r shead) (htail : tail.Carries r stail) :
    (Compiled.chain head tail).Carries r (.pipeline (.chain shead stail)) where
  aggregation := by
    rw [Selector.aggregations, Selector.directives_chain, List.filterMap_append,
      List.getLast?_append]
    exact congrArg₂ Option.or htail.aggregation hhead.aggregation
  sort := by
    rw [Selector.sorts, Selector.directives_chain, List.filterMap_append, List.head?_append]
    exact congrArg₂ Option.or hhead.sort htail.sort
  complete h := by
    obtain ⟨haggregations, hsorts⟩ := hhead.complete h.head
    obtain ⟨haggregations', hsorts'⟩ := htail.complete h.tail
    have hends := h shead stail .here
    obtain ⟨hall, hor⟩ := filterMap_append_eq_toList haggregations haggregations'
      fun d hd e he hboth => hends d hd e he ((d.rivals_iff e).2 (.inl hboth))
    obtain ⟨hall', -⟩ := filterMap_append_eq_toList hsorts hsorts'
      fun d hd e he hboth => hends d hd e he ((d.rivals_iff e).2 (.inr hboth))
    rw [Selector.aggregations, Selector.sorts, Selector.directives_chain, hall, hall', hor]
    exact ⟨rfl, rfl⟩

/-- An aggregation is only put before what carries none. -/
theorem Carries.aggregated {rest : Selector} {name : String} {args : List Value} {a : Aggregation}
    (hfunction : r.function? name = none) (haggregation : r.aggregation? name = some a)
    (hparsed : Selector.parseRest args = .ok rest) (hrest : c.Carries r rest)
    (hnone : c.aggregation = none) :
    { c with aggregation := some a }.Carries r (.pipeline (.call name args)) := by
  have hdirectives := Selector.directives_aggregated hfunction haggregation hparsed
  have hempty : rest.aggregations r = [] :=
    List.getLast?_eq_none_iff.1 (hrest.aggregation.symm.trans hnone)
  have haggregations : (Selector.pipeline (.call name args)).aggregations r = [a] := by
    rw [Selector.aggregations, hdirectives, List.filterMap_cons]
    exact congrArg (a :: ·) hempty
  have hsorts : (Selector.pipeline (.call name args)).sorts r = rest.sorts r := by
    rw [Selector.sorts, hdirectives, List.filterMap_cons]
    rfl
  refine ⟨by rw [haggregations]; rfl, by rw [hsorts]; exact hrest.sort, fun h => ?_⟩
  rw [haggregations, hsorts]
  have hbehind : rest.WithoutRivals r := fun _ _ along =>
    h _ _ (.behind hfunction haggregation hparsed along)
  exact ⟨rfl, (hrest.complete hbehind).2⟩

end Compiled

mutual

/-- What a selector compiles to carries the directives along its pipeline. -/
theorem Selector.carries_of_compile (s : Selector) {c : Compiled} (h : s.compile r = .ok c) :
    c.Carries r s := by
  match s with
  | .exclude | .copy =>
    rw [Selector.compile] at h
    cases h
    exact Compiled.carries_of_nil (by rw [Selector.directives]) ⟨rfl, rfl⟩
  | .sort priority =>
    rw [Selector.compile] at h
    cases h
    exact Compiled.carries_of_directives (by rw [Selector.directives]; rfl)
      (by rw [Selector.directives]; rfl)
  | .named name =>
    obtain ⟨a, haggregation, rfl⟩ | ⟨f, haggregation, -, rfl⟩ := Selector.compile_named_eq_ok.1 h
    · exact Compiled.carries_of_directives (by rw [Selector.directives, haggregation]; rfl)
        (by rw [Selector.directives, haggregation]; rfl)
    · exact Compiled.carries_of_nil (by rw [Selector.directives, haggregation]; rfl) ⟨rfl, rfl⟩
  | .pipeline p =>
    rw [Selector.compile] at h
    exact Pipeline.carries_of_compile p h
  | .fields f =>
    rw [Selector.compile] at h
    exact Compiled.carries_of_nil (by rw [Selector.directives])
      (FieldSelector.directives_of_compile h)
termination_by s.weight
decreasing_by
  simp only [Selector.weight]
  omega

/-- The same for a pipeline. -/
theorem Pipeline.carries_of_compile (p : Pipeline) {c : Compiled} (h : p.compile r = .ok c) :
    c.Carries r (.pipeline p) := by
  match p with
  | .identity | .access _ | .constant _ =>
    rw [Pipeline.compile] at h
    cases h
    exact Compiled.carries_of_nil (by rw [Selector.directives, Pipeline.directives]) ⟨rfl, rfl⟩
  | .nested f =>
    rw [Pipeline.compile] at h
    exact Compiled.carries_of_nil (by rw [Selector.directives, Pipeline.directives])
      (FieldSelector.directives_of_compile h)
  | .call name args =>
    obtain ⟨f, compiled, hfunction, -, hcall⟩ |
      ⟨a, s, rest, hfunction, haggregation, hparsed, hs, hnone, -, rfl⟩ :=
      Pipeline.compile_call_eq_ok.1 h
    · refine Compiled.carries_of_nil ?_ (Transform.directives_of_call hcall)
      rw [Selector.directives, Pipeline.directives]
      simp only [hfunction]
    · have hweight := Selector.weight_le_of_parseRest hparsed
      exact (Selector.carries_of_compile s hs).aggregated hfunction haggregation hparsed hnone
  | .chain head tail =>
    obtain ⟨chead, ctail, hhead, -, htail, -, rfl⟩ := Pipeline.compile_chain_eq_ok.1 h
    exact (Selector.carries_of_compile head hhead).chain (Selector.carries_of_compile tail htail)
termination_by p.weight
decreasing_by all_goals simp only [Pipeline.weight]; omega

end

/-- An aggregation with another one anywhere along the pipeline behind its name is refused. -/
theorem Pipeline.compile_call_of_aggregations_ne_nil {name : String} {args : List Value}
    {a : Aggregation} {rest : Selector} {c : Compiled} (hfunction : r.function? name = none)
    (haggregation : r.aggregation? name = some a) (hparsed : Selector.parseRest args = .ok rest)
    (hrest : rest.compile r = .ok c) (hne : rest.aggregations r ≠ []) :
    (Pipeline.call name args).compile r = refuse (.misplacedDirective name .nested) := by
  have hsome : c.aggregation.isSome = true := by
    rw [(rest.carries_of_compile hrest).aggregation]
    exact Option.isSome_iff_ne_none.2 fun hnone => hne (List.getLast?_eq_none_iff.1 hnone)
  rw [Pipeline.compile]
  simp only [hfunction, haggregation, compileRest_eq_ok.2 ⟨rest, hparsed, hrest⟩]
  exact if_pos hsome

/-- What becomes of the directives along the pipeline of a selector. One that compiles carries the
last aggregation and the first sort directive. These are all that are written exactly when no chain
along the pipeline has directives of one kind at both ends; of a chain that has, one is dropped
without an error. An aggregation that has another one anywhere along the pipeline behind its name
does not compile. -/
theorem Selector.directives_carried_of_compile (r : Resolver) (s : Selector) :
    (∀ c, s.compile r = .ok c →
      c.aggregation = (s.aggregations r).getLast? ∧ c.sort = (s.sorts r).head? ∧
      (s.aggregations r = c.aggregation.toList ∧ s.sorts r = c.sort.toList ↔
        s.WithoutRivals r)) ∧
    ∀ name args a rest c, s = .pipeline (.call name args) → r.function? name = none →
      r.aggregation? name = some a → Selector.parseRest args = .ok rest →
      rest.compile r = .ok c → rest.aggregations r ≠ [] →
      s.compile r = refuse (.misplacedDirective name .nested) := by
  constructor
  · intro c h
    have hcarries := s.carries_of_compile h
    refine ⟨hcarries.aggregation, hcarries.sort, ?_, hcarries.complete⟩
    rintro ⟨haggregations, hsorts⟩ head tail along d hd e he hrivals
    have hsub := along.sublist
    rw [directives_chain] at hsub
    rcases (d.rivals_iff e).1 hrivals with hboth | hboth
    · exact not_both_isSome hsub haggregations hd he hboth
    · exact not_both_isSome hsub hsorts hd he hboth
  · rintro name args a rest c rfl hfunction haggregation hparsed hrest hne
    rw [Selector.compile]
    exact Pipeline.compile_call_of_aggregations_ne_nil hfunction haggregation hparsed hrest hne

/-- Of two sort directives in a chain the second is dropped, and of two aggregations the first; the
same two aggregations are refused when one is called on the other. -/
theorem Selector.second_sort_dropped :
    let sorted := Selector.pipeline (.chain (.sort 1) (.sort 2))
    let first := Selector.pipeline (.call "first" [.array []])
    let summed := Selector.pipeline (.chain first (.named "sum"))
    let nested := Selector.pipeline (.call "sum" [.array [.string "first", .array []]])
    (Selector.parse (.array [.int 1, .int 2]) = .ok sorted ∧
      Selector.parse (.array [.array [.string "first", .array []], .string "sum"]) = .ok summed ∧
      Selector.parse (.array [.string "sum", .array [.string "first", .array []]]) = .ok nested) ∧
      (∃ c, sorted.compile .standard = .ok c ∧ sorted.sorts .standard = [1, 2] ∧
        c.sort = some 1 ∧ ¬sorted.WithoutRivals .standard) ∧
      (∃ c, summed.compile .standard = .ok c ∧
        summed.aggregations .standard = [.fold .first, .fold (.sum .standard)] ∧
        c.aggregation = some (.fold (.sum .standard)) ∧ ¬summed.WithoutRivals .standard) ∧
      nested.compile .standard = refuse (.misplacedDirective "sum" .nested) := by
  intro sorted first summed nested
  have hfirst : Resolver.standard.aggregation? "first" = some (.fold .first) := rfl
  have hsum : Resolver.standard.aggregation? "sum" = some (.fold (.sum .standard)) := rfl
  have hnofirst : Resolver.standard.function? "first" = none := rfl
  have hnosum : Resolver.standard.function? "sum" = none := rfl
  have hcopy : Selector.parseRest [.array []] = .ok (.pipeline .identity) := rfl
  have hcalled : Selector.parseRest [.array [.string "first", .array []]] = .ok first := rfl
  have hcsorted : sorted.compile .standard = .ok (.chain
      { Compiled.reading .same with sort := some 1 }
      { Compiled.reading .same with sort := some 2 }) := by
    rw [Selector.compile, Pipeline.compile, Selector.compile, Selector.compile]
    rfl
  have hcfirst : first.compile .standard =
      .ok { Compiled.reading .same with aggregation := some (.fold .first) } := by
    have hrest : compileRest .standard [.array []] = .ok (.reading .same) :=
      compileRest_eq_ok.2 ⟨_, hcopy, by rw [Selector.compile, Pipeline.compile]⟩
    rw [Selector.compile, Pipeline.compile]
    simp only [hnofirst, hfirst, hrest]
    rfl
  have hcsummed : summed.compile .standard = .ok (.chain
      { Compiled.reading .same with aggregation := some (.fold .first) }
      { Compiled.reading .same with aggregation := some (.fold (.sum .standard)) }) := by
    rw [Selector.compile, Pipeline.compile, hcfirst, Selector.compile, hsum]
    rfl
  have hdsorted : sorted.directives .standard = [.sort 1, .sort 2] := by
    rw [Selector.directives_chain, Selector.directives, Selector.directives]
    rfl
  have hdfirst : first.directives .standard = [.aggregation (.fold .first)] := by
    rw [Selector.directives_aggregated hnofirst hfirst hcopy, Selector.directives,
      Pipeline.directives]
  have hdsummed : summed.directives .standard =
      [.aggregation (.fold .first), .aggregation (.fold (.sum .standard))] := by
    rw [Selector.directives_chain, hdfirst, Selector.directives, hsum]
    rfl
  obtain ⟨-, -, hsortiff⟩ :=
    (Selector.directives_carried_of_compile .standard sorted).1 _ hcsorted
  obtain ⟨-, -, haggiff⟩ :=
    (Selector.directives_carried_of_compile .standard summed).1 _ hcsummed
  rw [Selector.sorts, Selector.aggregations, hdsorted] at hsortiff
  rw [Selector.sorts, Selector.aggregations, hdsummed] at haggiff
  refine ⟨⟨rfl, rfl, rfl⟩, ⟨_, hcsorted, ?_, rfl, fun h => ?_⟩, ⟨_, hcsummed, ?_, rfl, fun h => ?_⟩,
    ?_⟩
  · rw [Selector.sorts, hdsorted]
    rfl
  · cases (hsortiff.2 h).2
  · rw [Selector.aggregations, hdsummed]
    rfl
  · cases (haggiff.2 h).1
  · refine (Selector.directives_carried_of_compile .standard nested).2 _ _ _ _ _ rfl hnosum hsum
      hcalled hcfirst ?_
    rw [Selector.aggregations, hdfirst]
    exact List.cons_ne_nil _ _

end Reshape
