import Reshape.Compile.Query
import Reshape.Proofs.Compile.Basic
import Reshape.Proofs.Query.Location

/-!
# Where errors of compilation lie

Whatever a query or a predicate is refused for, the keys of the error lead to a value that is
written there (`CompileError.truthful`). Compiling works on syntax, so the proof goes by what was
written: each function of the compiler fails truthfully in the values that its syntax was parsed
from. Arguments of a call are still values when they come to be compiled, and they are parts of the
pipeline that the call was parsed from.

An operator that an application adds can refuse its operand with any error, so that the operators
are taken to be built-in ones. Which texts its engine refuses as patterns does not matter.

Alternatives of a parsed disjunction are no disjunctions, so the error of compilation that shows one
as a tree, which no query has written, does not come up.
-/

namespace Reshape

open CompileError (TruthfulIn truthfulIn_of truthfulIn_of_name)

variable {r : Resolver}

/-! ## Predicates -/

section Predicates

variable {reach : Reach} {w : Value}

theorem truthful_of_literalOperand (hreach : reach [] w) (operator : String) (p : Predicate) :
    FailsWith (TruthfulIn reach) (literalOperand operator p) := by
  cases p with
  | equals literal => exact .ok _
  | all entries => exact .refuse (truthfulIn_of hreach rfl rfl)
  | any alternatives => exact .refuse (truthfulIn_of hreach rfl rfl)

theorem PatternEngine.truthful_of_compile (engine : PatternEngine) (hreach : reach [] w)
    (p : Predicate) : FailsWith (TruthfulIn reach) (engine.compile p) := by
  refine (truthful_of_literalOperand hreach patternSymbol p).bind fun literal _ => ?_
  split
  · split
    · exact .ok _
    · exact .refuse (truthfulIn_of hreach rfl rfl)
  · exact .refuse (truthfulIn_of hreach rfl rfl)

theorem Predicate.isAny_of_parse {v : Value} {p : Predicate} (h : parse v = .ok p) :
    p.isAny = v.isArray := by
  cases v with
  | array items =>
    obtain ⟨_, -, rfl⟩ := map_eq_ok.1 h
    rfl
  | object fields =>
    obtain ⟨_, -, rfl⟩ := map_eq_ok.1 h
    rfl
  | _ =>
    cases h
    rfl

namespace Predicate

mutual

/-- The test of a written predicate fails truthfully in what is written. -/
theorem truthful_of_compile (hr : r.HasBuiltinOperators) (v : Value) {p : Predicate}
    (hparse : parse v = .ok p) : FailsWith (TruthfulIn v.Reaches) (p.compile r) := by
  match v with
  | .object fields =>
    obtain ⟨entries, hentries, rfl⟩ := map_eq_ok.1 hparse
    rw [compile]
    refine FailsWith.bind ?_ fun _ _ => .ok _
    exact (truthful_of_compileEntries hr fields hentries).mono (·.mono .ofFields)
  | .array items =>
    obtain ⟨alternatives, halternatives, rfl⟩ := map_eq_ok.1 hparse
    rw [compile]
    refine FailsWith.bind ?_ fun _ _ => .ok _
    exact (truthful_of_compileAlternatives hr items halternatives).mono (·.mono .ofItems)
  | .null | .bool _ | .int _ | .float _ | .string _ =>
    cases hparse
    exact .ok _

theorem truthful_of_compileEntries (hr : r.HasBuiltinOperators) (fields : List (String × Value))
    {entries : List (String × Predicate)} (hparse : parseEntries fields = .ok entries) :
    FailsWith (TruthfulIn (fieldsReach fields)) (compileEntries r entries) := by
  match fields with
  | [] =>
    cases hparse
    exact .ok _
  | (key, v) :: fields =>
    rw [parseEntries] at hparse
    obtain ⟨p, hp, hparse⟩ := bind_eq_ok.1 hparse
    obtain ⟨entries, hentries, hparse⟩ := bind_eq_ok.1 hparse
    cases hparse
    have htest := truthful_of_compile hr v (located_eq_ok.1 hp)
    have hrest := (truthful_of_compileEntries hr fields hentries).mono
      (·.mono (fieldsReach_mono (List.subset_cons_self (key, v) fields)))
    rw [compileEntries]
    refine (truthful_located List.mem_cons_self ?_).bind fun _ _ => hrest.bind fun _ _ => .ok _
    cases hoperator : r.operator? key with
    | none => exact htest.map
    | some operator =>
      cases operator with
      | negation => exact htest.map
      | comparison c => exact (truthful_of_literalOperand (.here v) _ p).bind fun _ _ => .ok _
      | pattern engine => exact engine.truthful_of_compile (.here v) p
      | custom f => exact (hr key _ hoperator).elim

theorem truthful_of_compileAlternatives (hr : r.HasBuiltinOperators) {whole : Value}
    (items : List Value) {alternatives : List Predicate}
    (hparse : parseAlternatives whole items = .ok alternatives) :
    FailsWith (TruthfulIn (itemsReach items)) (compileAlternatives r alternatives) := by
  match items with
  | [] =>
    cases hparse
    exact .ok _
  | v :: items =>
    rw [parseAlternatives] at hparse
    split at hparse
    · exact absurd hparse refuse_ne_ok
    case isFalse harray =>
      obtain ⟨p, hp, hparse⟩ := bind_eq_ok.1 hparse
      obtain ⟨alternatives, halternatives, hparse⟩ := bind_eq_ok.1 hparse
      cases hparse
      have htest := (truthful_of_compile hr v hp).mono
        (·.mono (itemsReach_of_mem (List.mem_cons_self : v ∈ v :: items)))
      have hrest := (truthful_of_compileAlternatives hr items halternatives).mono
        (·.mono (itemsReach_mono (List.subset_cons_self v items)))
      rw [compileAlternatives, if_neg (isAny_of_parse hp ▸ harray)]
      exact htest.bind fun _ _ => hrest.bind fun _ _ => .ok _

end

end Predicate

end Predicates

/-! ## Parts of selectors -/

section Parts

variable {reach : Reach} {w : Value}

theorem truthful_of_withoutDirectives (hreach : reach [] w) (c : Compiled) (place : Place) :
    FailsWith (TruthfulIn reach) (c.withoutDirectives place) := by
  rw [Compiled.withoutDirectives]
  split
  · exact .refuse (truthfulIn_of hreach rfl rfl)
  · exact .refuse (truthfulIn_of hreach rfl rfl)
  · exact .ok _

theorem truthful_of_toRemaining (hreach : reach [] w) (c : Compiled) :
    FailsWith (TruthfulIn reach) c.toRemaining := by
  have hdirectives := truthful_of_withoutDirectives hreach c .remaining
  rw [Compiled.toRemaining]
  split
  case h_1 e he => exact .error (hdirectives e he)
  case h_2 =>
    split
    · exact .ok _
    · exact .ok _
    · exact .refuse (truthfulIn_of hreach rfl rfl)

theorem truthful_of_call (hreach : reach [] w) (f : Transform) (name : String)
    (written : List Value) (args : List Argument) :
    FailsWith (TruthfulIn reach) (f.call name written args) := by
  rw [Transform.call]
  split
  · split
    · exact .refuse (truthfulIn_of hreach rfl rfl)
    · exact .ok _
  · exact .refuse (truthfulIn_of hreach rfl rfl)

variable {written : List (String × Value)}

theorem truthful_of_checkDestination {raw : String} {v : Value} (hmem : (raw, v) ∈ written)
    (dest : Key) : FailsWith (TruthfulIn (fieldsReach written)) (checkDestination raw dest) := by
  rw [checkDestination.eq_def]
  split
  · split
    · exact truthful_located hmem (.refuse (truthfulIn_of (.here v) rfl rfl))
    · exact .ok _
  · exact .ok _

/-- Fields fail truthfully if what each is written as does. -/
theorem truthful_of_compileEntries {fields : List (String × Selector)}
    (h : ∀ key s, (key, s) ∈ fields → ∃ v, (key, v) ∈ written ∧
      FailsWith (TruthfulIn v.Reaches) (s.compile r)) :
    FailsWith (TruthfulIn (fieldsReach written)) (compileEntries r fields) := by
  induction fields with
  | nil =>
    rw [compileEntries]
    exact .ok _
  | cons field fields ih =>
    obtain ⟨raw, s⟩ := field
    obtain ⟨v, hmem, hs⟩ := h raw s List.mem_cons_self
    have hrest := ih fun key s hs => h key s (List.mem_cons_of_mem _ hs)
    rw [compileEntries]
    exact (truthful_of_checkDestination hmem _).bind fun _ _ =>
      (truthful_located hmem hs).bind fun _ _ => hrest.bind fun _ _ => .ok _

/-- An object selector fails truthfully if the selectors that are written in it do. -/
theorem FieldSelector.truthful_of_compile (hr : r.HasBuiltinOperators) {f : FieldSelector}
    (hparse : FieldSelector.parse written = .ok f)
    (h : ∀ p ∈ written, ∀ s, Selector.parse p.2 = .ok s →
      FailsWith (TruthfulIn p.2.Reaches) (s.compile r)) :
    FailsWith (TruthfulIn (fieldsReach written)) (f.compile r) := by
  obtain ⟨fields, remaining, filter⟩ := f
  have hentries : FailsWith (TruthfulIn (fieldsReach written)) (compileEntries r fields) := by
    refine truthful_of_compileEntries fun key s hs => ?_
    obtain ⟨v, hmem, hv⟩ := written_of_hasPart hparse (.field key s) hs
    exact ⟨v, hmem, h _ hmem s (WrittenPart.parse_eq_ok.1 hv).2.2.2⟩
  have hremaining :
      FailsWith (TruthfulIn (fieldsReach written)) (compileRemaining r remaining) := by
    cases remaining with
    | none =>
      rw [compileRemaining]
      exact .ok _
    | some s =>
      obtain ⟨v, hmem, hv⟩ := written_of_hasPart hparse (.remaining s) rfl
      have hs := h _ hmem s (WrittenPart.parse_eq_ok.1 hv).2
      rw [compileRemaining]
      exact (truthful_located hmem hs).bind fun c _ =>
        (truthful_located hmem (truthful_of_toRemaining (.here v) c)).bind fun _ _ => .ok _
  have hfilter : FailsWith (TruthfulIn (fieldsReach written)) (compileFilter r filter) := by
    cases filter with
    | none => exact .ok _
    | some p =>
      obtain ⟨v, hmem, hv⟩ := written_of_hasPart hparse (.filter p) rfl
      have hp := Predicate.truthful_of_compile hr v (WrittenPart.parse_eq_ok.1 hv).2
      exact (truthful_located hmem hp).map
  rw [FieldSelector.compile]
  exact hentries.bind fun _ _ => hremaining.bind fun _ _ => hfilter.bind fun _ _ => .ok _

end Parts

/-! ## Selectors -/

mutual

/-- Compiling what a value is parsed to fails truthfully in the value. -/
theorem Selector.truthful_of_compile (hr : r.HasBuiltinOperators) (v : Value) {s : Selector}
    (hparse : Selector.parse v = .ok s) : FailsWith (TruthfulIn v.Reaches) (s.compile r) := by
  match v with
  | .null | .bool false | .bool true =>
    cases hparse
    rw [Selector.compile]
    exact .ok _
  | .int n =>
    rw [Selector.parse] at hparse
    split at hparse
    · exact absurd hparse refuse_ne_ok
    · cases hparse
      rw [Selector.compile]
      exact .ok _
  | .float x => exact absurd hparse refuse_ne_ok
  | .string name =>
    cases hparse
    rw [Selector.compile]
    split
    · exact .ok _
    · exact .ok _
    · exact .refuse (truthfulIn_of_name (.here _) rfl rfl)
  | .array elements =>
    obtain ⟨p, hp, rfl⟩ := map_eq_ok.1 hparse
    rw [Selector.compile]
    exact (Pipeline.truthful_of_compile hr elements hp).mono (·.mono .ofItems)
  | .object fields =>
    obtain ⟨f, hf, rfl⟩ := map_eq_ok.1 hparse
    rw [Selector.compile]
    refine (FieldSelector.truthful_of_compile hr hf fun p hp s hs => ?_).mono (·.mono .ofFields)
    exact Selector.truthful_of_compile hr p.2 hs
termination_by v.weight
decreasing_by
  · simp only [Value.weight]
    omega
  · have := weight_lt_fieldsWeight ‹_ ∈ fields›
    simp only [Value.weight]
    omega

/-- The same for the selector behind the first element of a pipeline. -/
theorem Selector.truthful_of_compileRest (hr : r.HasBuiltinOperators) (args : List Value)
    {s : Selector} (hparse : Selector.parseRest args = .ok s) :
    FailsWith (TruthfulIn (itemsReach args)) (s.compile r) := by
  match args with
  | [single] =>
    exact (Selector.truthful_of_compile hr single hparse).mono
      (·.mono (itemsReach_of_mem List.mem_cons_self))
  | [] | _ :: _ :: _ =>
    obtain ⟨p, hp, rfl⟩ := map_eq_ok.1 hparse
    rw [Selector.compile]
    exact Pipeline.truthful_of_compile hr _ hp
termination_by 1 + itemsWeight args
decreasing_by
  all_goals simp only [itemsWeight]
  all_goals omega

/-- The same for the elements of a pipeline. -/
theorem Pipeline.truthful_of_compile (hr : r.HasBuiltinOperators) (elements : List Value)
    {p : Pipeline} (hparse : Pipeline.parse elements = .ok p) :
    FailsWith (TruthfulIn (itemsReach elements)) (p.compile r) := by
  match elements with
  | [] =>
    cases hparse
    rw [Pipeline.compile]
    exact .ok _
  | [element] =>
    exact (Pipeline.truthful_of_compileAccessor hr element hparse).mono
      (·.mono (itemsReach_of_mem List.mem_cons_self))
  | first :: second :: rest =>
    have hfirst : itemsReach (first :: second :: rest) [] first :=
      itemsReach_of_mem List.mem_cons_self (.here first)
    have hsub := List.subset_cons_self first (second :: rest)
    rw [Pipeline.parse_cons first (List.cons_ne_nil second rest)] at hparse
    split at hparse
    case h_1 name hname =>
      cases hparse
      have hargs : FailsWith (TruthfulIn (itemsReach (first :: second :: rest)))
          (compileArguments r (second :: rest)) :=
        (truthful_of_compileArguments hr (second :: rest)).mono (·.mono (itemsReach_mono hsub))
      have hrest : FailsWith (TruthfulIn (itemsReach (first :: second :: rest)))
          (compileRest r (second :: rest)) := by
        rw [compileRest_eq]
        refine (((Selector.quotes_of_parseRest _).mono (·.truthfulIn)).bind fun s hs => ?_).mono
          (·.mono (itemsReach_mono hsub))
        exact Selector.truthful_of_compileRest hr (second :: rest) hs
      rw [Pipeline.compile]
      split
      · exact hargs.bind fun _ _ => truthful_of_call hfirst _ name _ _
      · exact .refuse (truthfulIn_of_name (Value.eq_string_of_toString? hname ▸ hfirst) rfl rfl)
      · refine hrest.bind fun _ _ => ?_
        split
        · exact .refuse (truthfulIn_of hfirst rfl rfl)
        · split
          · exact .refuse (truthfulIn_of hfirst rfl rfl)
          · exact .ok _
    case h_2 =>
      obtain ⟨head, hhead, hparse⟩ := bind_eq_ok.1 hparse
      obtain ⟨tail, htail, hparse⟩ := bind_eq_ok.1 hparse
      cases hparse
      have hhead := (Selector.truthful_of_compile hr first hhead).mono
        (·.mono (itemsReach_of_mem (List.mem_cons_self : first ∈ first :: second :: rest)))
      have htail := (Selector.truthful_of_compileRest hr (second :: rest) htail).mono
        (·.mono (itemsReach_mono hsub))
      rw [Pipeline.compile]
      refine hhead.bind fun _ _ => ?_
      split
      · exact .refuse (truthfulIn_of hfirst rfl rfl)
      · refine htail.bind fun _ _ => ?_
        split
        · exact .refuse (truthfulIn_of hfirst rfl rfl)
        · exact .ok _
termination_by itemsWeight elements
decreasing_by
  all_goals simp only [itemsWeight]
  all_goals omega

/-- The same for the one element of an accessor. -/
theorem Pipeline.truthful_of_compileAccessor (hr : r.HasBuiltinOperators) (v : Value) {p : Pipeline}
    (hparse : Pipeline.parseAccessor v = .ok p) :
    FailsWith (TruthfulIn v.Reaches) (p.compile r) := by
  match v with
  | .string _ | .int _ | .array [_] =>
    cases hparse
    rw [Pipeline.compile]
    exact .ok _
  | .array [] | .array (_ :: _ :: _) | .null | .bool _ | .float _ =>
    exact absurd hparse refuse_ne_ok
  | .object fields =>
    obtain ⟨f, hf, rfl⟩ := map_eq_ok.1 hparse
    rw [Pipeline.compile]
    refine (FieldSelector.truthful_of_compile hr hf fun p hp s hs => ?_).mono (·.mono .ofFields)
    exact Selector.truthful_of_compile hr p.2 hs
termination_by v.weight
decreasing_by
  have := weight_lt_fieldsWeight ‹_ ∈ fields›
  simp only [Value.weight]
  omega

/-- The same for the arguments of a function. Those that read are parsed here. -/
theorem truthful_of_compileArguments (hr : r.HasBuiltinOperators) (args : List Value) :
    FailsWith (TruthfulIn (itemsReach args)) (compileArguments r args) := by
  match args with
  | [] =>
    rw [compileArguments]
    exact .ok _
  | arg :: args =>
    have hrest := (truthful_of_compileArguments hr args).mono
      (·.mono (itemsReach_mono (List.subset_cons_self arg args)))
    rw [compileArguments_cons]
    split
    · exact hrest.bind fun _ _ => .ok _
    case h_2 elements hreads =>
      have harg := Value.eq_array_of_readElements? hreads
      have hreach : ∀ {path w}, itemsReach elements path w → itemsReach (arg :: args) path w :=
        fun h => itemsReach_of_mem List.mem_cons_self (harg ▸ .ofItems h)
      have hparsed := (Pipeline.quotes_of_parse elements).mono (·.truthfulIn.mono hreach)
      have hwhole : itemsReach (arg :: args) [] arg :=
        itemsReach_of_mem List.mem_cons_self (.here arg)
      refine hparsed.bind fun p hp => ?_
      have hread := (Pipeline.truthful_of_compile hr elements hp).mono (·.mono hreach)
      exact hread.bind fun read _ => (truthful_of_withoutDirectives hwhole read _).bind
        fun _ _ => hrest.bind fun _ _ => .ok _
termination_by 1 + itemsWeight args
decreasing_by
  · simp only [itemsWeight]
    omega
  · have := Value.itemsWeight_le_of_readElements? ‹arg.readElements? = some _›
    simp only [itemsWeight]
    omega

end

/-! ## Queries and predicates -/

/-- Whether an error is what the keys of its path say about a value: one layer at most around the
fault, and nothing told that is not to be found where the keys lead. -/
structure CompileError.LocatedIn (v : Value) (e : CompileError) : Prop where
  layers : e.path = [] ∧ e.layered = .root e.fault ∨
    e.path ≠ [] ∧ e.layered = .located e.path (.root e.fault)
  truthful : e.TruthfulIn v.Reaches

/-- Every error of compilation against built-in operators is truthfully located in the query or
predicate that it is about, and the errors of parsing quote what they refuse. -/
theorem CompileError.located_of_compile (r : Resolver) (hr : r.HasBuiltinOperators) (v : Value)
    (e : CompileError) :
    (Query.compile r v = .error e ∨ compilePredicate r v = .error e → e.LocatedIn v) ∧
      (Selector.parse v = .error e ∨ Predicate.parse v = .error e → e.QuotesIn v.Reaches) := by
  have hquery : FailsWith (TruthfulIn v.Reaches) (Query.compile r v) := by
    refine ((Selector.quotes_of_parse v).mono (·.truthfulIn)).bind fun s hs => ?_
    refine (Selector.truthful_of_compile hr v hs).bind fun c _ => ?_
    exact (truthful_of_withoutDirectives (.here v) c _).bind fun _ _ => .ok _
  have hpredicate : FailsWith (TruthfulIn v.Reaches) (compilePredicate r v) :=
    ((Predicate.quotes_of_parse v).mono (·.truthfulIn)).bind fun _ hp =>
      Predicate.truthful_of_compile hr v hp
  constructor
  · intro h
    exact ⟨e.layered_cases, h.elim (hquery e) (hpredicate e)⟩
  · intro h
    exact h.elim (Selector.quotes_of_parse v e) (Predicate.quotes_of_parse v e)

/-- A priority of zero in an argument, which is parsed only when the call around it is compiled, and
a disjunction in another one below a negation are both found under their keys. -/
theorem CompileError.located_in_kennels :
    let query := Value.object [("dogs", .array [.array [.string "kennels"],
      .object [("ages", .array [.string "length", .array [.object [("*", .int 0)]]])]])]
    let predicate := Value.object [("age",
      .array [.int 1, .object [("!", .array [.array [.int 2]])]])]
    let e : CompileError := ⟨["dogs", "ages", "*"], .invalidSelector "0" .zeroPriority⟩
    let e' : CompileError := ⟨["age", "!"], .nestedDisjunction "[[2]]"⟩
    Resolver.standard.HasBuiltinOperators ∧ Query.compile .standard query = .error e ∧
      e.LocatedIn query ∧
      Predicate.parse predicate = .error e' ∧ e'.QuotesIn predicate.Reaches ∧
      compilePredicate .standard predicate = .error e' ∧ e'.LocatedIn predicate := by
  intro query predicate e e'
  have hlength : Resolver.standard.function? "length" = some .length := rfl
  have hdogs : Resolver.standard.key "dogs" = .name "dogs" := by decide
  have hages : Resolver.standard.key "ages" = .name "ages" := by decide
  have hreads : (Value.array [.object [("*", .int 0)]]).readElements? =
      some [.object [("*", .int 0)]] := rfl
  have hargument : Pipeline.parse [.object [("*", .int 0)]] =
      .error ⟨["*"], .invalidSelector "0" .zeroPriority⟩ := rfl
  let ages := Pipeline.call "length" [.array [.object [("*", .int 0)]]]
  let dogs := Pipeline.chain (.pipeline (.access (.name "kennels")))
    (.fields (.mk [("ages", .pipeline ages)] none none))
  have hselector : Selector.parse query =
      .ok (.fields (.mk [("dogs", .pipeline dogs)] none none)) := rfl
  have hquery : Query.compile .standard query = .error e := by
    simp [e, dogs, ages, Query.compile, hselector, Selector.compile, Pipeline.compile,
      FieldSelector.compile, compileEntries, hdogs, hages, hlength, compileArguments_cons, hreads,
      hargument, checkDestination, Compiled.reading, located, CompileError.under, bind, Except.bind]
  have hparse : Predicate.parse predicate = .error e' := rfl
  have hpredicate : compilePredicate .standard predicate = .error e' := by
    rw [compilePredicate, hparse]
    rfl
  have hr := Resolver.standard_hasBuiltinOperators
  exact ⟨hr, hquery, (located_of_compile .standard hr query e).1 (.inl hquery), hparse,
    (located_of_compile .standard hr predicate e').2 (.inr hparse), hpredicate,
    (located_of_compile .standard hr predicate e').1 (.inr hpredicate)⟩

end Reshape
