import Reshape.Compile.Selector
import Reshape.Proofs.Node.Plan
import Reshape.Proofs.Query.Parser

/-!
# Compiling piece by piece

An object selector compiles to a node and nothing else: what it means is what its node does. Of
names, chains and calls one lemma each says when they compile and to what
(`Selector.compile_named_eq_ok`, `Pipeline.compile_chain_eq_ok`, `Pipeline.compile_call_eq_ok`). The
arguments of a call stay values until the call is compiled, and then each is parsed and compiled on
its own.
-/

namespace Reshape

variable {r : Resolver}

/-! ## Object selectors -/

/-- The node that an object selector becomes. -/
def FieldSelector.node (r : Resolver) : FieldSelector → Except CompileError Node
  | .mk fields remaining filter => do
    let (entries, _) ← compileEntries r fields
    let (remaining, _) ← compileRemaining r remaining
    let test ← compileFilter r filter
    return Node.plan entries remaining test

/-- An object selector compiles exactly when it becomes a node, and then it applies the node. -/
theorem FieldSelector.mapper_compile (f : FieldSelector) :
    Compiled.mapper <$> f.compile r = (fun node v => v.bind node.apply) <$> f.node r := by
  obtain ⟨fields, remaining, filter⟩ := f
  rw [FieldSelector.compile, FieldSelector.node]
  cases compileEntries r fields with
  | error e => rfl
  | ok entries =>
    cases compileRemaining r remaining with
    | error e => rfl
    | ok remaining => cases compileFilter r filter <;> rfl

/-- Fields compile one after the other, each to an entry for its own destination. -/
theorem compileEntries_cons_eq_ok {raw : String} {s : Selector} {fields : List (String × Selector)}
    {entries : List Entry} {notices : List Notice} :
    compileEntries r ((raw, s) :: fields) = .ok (entries, notices) ↔
      checkDestination raw (r.key raw) = .ok () ∧ ∃ c rest restNotices, s.compile r = .ok c ∧
        compileEntries r fields = .ok (rest, restNotices) ∧
        c.toEntry (r.key raw) :: rest = entries ∧ c.notices ++ restNotices = notices := by
  rw [compileEntries]
  constructor
  · intro h
    obtain ⟨_, hcheck, h⟩ := bind_eq_ok.1 h
    obtain ⟨c, hc, h⟩ := bind_eq_ok.1 h
    obtain ⟨⟨rest, restNotices⟩, hrest, h⟩ := bind_eq_ok.1 h
    cases h
    exact ⟨hcheck, c, rest, restNotices, located_eq_ok.1 hc, hrest, rfl, rfl⟩
  · rintro ⟨hcheck, c, rest, restNotices, hc, hrest, rfl, rfl⟩
    rw [hcheck, hc, hrest]
    rfl

/-- An object selector becomes a node when its three kinds of keys compile. -/
theorem FieldSelector.node_eq_ok {fields : List (String × Selector)} {remaining : Option Selector}
    {filter : Option Predicate} {node : Node} :
    (FieldSelector.mk fields remaining filter).node r = .ok node ↔
      ∃ entries notices copied copiedNotices test,
        compileEntries r fields = .ok (entries, notices) ∧
        compileRemaining r remaining = .ok (copied, copiedNotices) ∧
        compileFilter r filter = .ok test ∧ Node.plan entries copied test = node := by
  rw [FieldSelector.node]
  constructor
  · intro h
    obtain ⟨⟨entries, notices⟩, hentries, h⟩ := bind_eq_ok.1 h
    obtain ⟨⟨copied, copiedNotices⟩, hcopied, h⟩ := bind_eq_ok.1 h
    obtain ⟨test, htest, h⟩ := bind_eq_ok.1 h
    cases h
    exact ⟨entries, notices, copied, copiedNotices, test, hentries, hcopied, htest, rfl⟩
  · rintro ⟨entries, notices, copied, copiedNotices, test, hentries, hcopied, htest, rfl⟩
    rw [hentries, hcopied, htest]
    rfl

theorem FieldSelector.planned_of_node {f : FieldSelector} {node : Node} (h : f.node r = .ok node) :
    node.Planned := by
  obtain ⟨fields, remaining, filter⟩ := f
  obtain ⟨entries, -, copied, -, test, -, -, -, rfl⟩ := node_eq_ok.1 h
  exact Node.planned_plan entries copied test

/-! ## Names -/

/-- A name compiles when it is that of an aggregation or, if not, that of a function. -/
theorem Selector.compile_named_eq_ok {name : String} {c : Compiled} :
    (Selector.named name).compile r = .ok c ↔
      (∃ a, r.aggregation? name = some a ∧
        { Compiled.reading .same with aggregation := some a } = c) ∨
      ∃ f, r.aggregation? name = none ∧ r.function? name = some f ∧
        { Compiled.reading .same with mapper := f.ofInput } = c := by
  rw [Selector.compile]
  constructor
  · intro h
    split at h
    case h_1 a haggregation =>
      cases h
      exact .inl ⟨a, haggregation, rfl⟩
    case h_2 f haggregation hfunction =>
      cases h
      exact .inr ⟨f, haggregation, hfunction, rfl⟩
    case h_3 => exact absurd h refuse_ne_ok
  · rintro (⟨a, haggregation, rfl⟩ | ⟨f, haggregation, hfunction, rfl⟩)
    · simp only [haggregation]
    · simp only [haggregation, hfunction]

/-! ## Chains -/

/-- A chain compiles when both ends do and neither is left out. -/
theorem Pipeline.compile_chain_eq_ok {head tail : Selector} {c : Compiled} :
    (Pipeline.chain head tail).compile r = .ok c ↔
      ∃ first last, head.compile r = .ok first ∧ first.source ≠ .excluded ∧
        tail.compile r = .ok last ∧ last.source ≠ .excluded ∧ Compiled.chain first last = c := by
  rw [Pipeline.compile]
  constructor
  · intro h
    obtain ⟨first, hfirst, h⟩ := bind_eq_ok.1 h
    split at h
    · exact absurd h refuse_ne_ok
    case isFalse hstart =>
      obtain ⟨last, hlast, h⟩ := bind_eq_ok.1 h
      split at h
      · exact absurd h refuse_ne_ok
      case isFalse hend =>
        cases h
        exact ⟨first, last, hfirst, hstart, hlast, hend, rfl⟩
  · rintro ⟨first, last, hfirst, hstart, hlast, hend, rfl⟩
    refine bind_eq_ok.2 ⟨first, hfirst, ?_⟩
    rw [if_neg hstart]
    refine bind_eq_ok.2 ⟨last, hlast, ?_⟩
    rw [if_neg hend]
    rfl

/-! ## Calls -/

/-- Compiling what stands behind the name of an aggregation is parsing and compiling a selector. -/
theorem compileRest_eq (args : List Value) :
    compileRest r args = Selector.parseRest args >>= Selector.compile r := by
  by_cases hsingle : ∃ single, args = [single]
  · obtain ⟨single, rfl⟩ := hsingle
    rw [compileRest, Selector.parseRest]
    split
    case h_1 e hparse => rw [hparse]; rfl
    case h_2 s hparse => rw [hparse]; rfl
  · have hmany : ∀ single, args = [single] → False := fun single h => hsingle ⟨single, h⟩
    rw [compileRest, Selector.parseRest]
    · split
      case h_1 e hparse => rw [hparse]; rfl
      case h_2 p hparse => rw [hparse, ← Selector.compile]; rfl
    · exact hmany
    · exact hmany

theorem compileRest_eq_ok {args : List Value} {c : Compiled} :
    compileRest r args = .ok c ↔ ∃ s, Selector.parseRest args = .ok s ∧ s.compile r = .ok c := by
  rw [compileRest_eq, bind_eq_ok]

/-- The call of a function compiles when its arguments do and fit. The name of an aggregation that
is no function compiles with a selector behind it that brings no aggregation and reads something.
-/
theorem Pipeline.compile_call_eq_ok {name : String} {args : List Value} {c : Compiled} :
    (Pipeline.call name args).compile r = .ok c ↔
      (∃ f compiled, r.function? name = some f ∧ compileArguments r args = .ok compiled ∧
        f.call name args compiled = .ok c) ∨
      ∃ a s rest, r.function? name = none ∧ r.aggregation? name = some a ∧
        Selector.parseRest args = .ok s ∧ s.compile r = .ok rest ∧ rest.aggregation = none ∧
        rest.source ≠ .excluded ∧ { rest with aggregation := some a } = c := by
  rw [Pipeline.compile]
  constructor
  · intro h
    split at h
    case h_1 f hfunction =>
      obtain ⟨compiled, hcompiled, h⟩ := bind_eq_ok.1 h
      exact .inl ⟨f, compiled, hfunction, hcompiled, h⟩
    case h_2 => exact absurd h refuse_ne_ok
    case h_3 a hfunction haggregation =>
      obtain ⟨rest, hrest, h⟩ := bind_eq_ok.1 h
      obtain ⟨s, hparsed, hs⟩ := compileRest_eq_ok.1 hrest
      split at h
      · exact absurd h refuse_ne_ok
      case isFalse hnone =>
        split at h
        · exact absurd h refuse_ne_ok
        case isFalse hsource =>
          cases h
          exact .inr ⟨a, s, rest, hfunction, haggregation, hparsed, hs,
            Option.not_isSome_iff_eq_none.1 hnone, hsource, rfl⟩
  · rintro (⟨f, compiled, hfunction, hcompiled, hcall⟩ |
      ⟨a, s, rest, hfunction, haggregation, hparsed, hs, hnone, hsource, rfl⟩)
    · simp only [hfunction]
      exact bind_eq_ok.2 ⟨compiled, hcompiled, hcall⟩
    · simp only [hfunction, haggregation]
      refine bind_eq_ok.2 ⟨rest, compileRest_eq_ok.2 ⟨s, hparsed, hs⟩, ?_⟩
      rw [hnone, Option.isSome_none, if_neg Bool.false_ne_true, if_neg hsource]
      rfl

/-- Arguments are compiled one after the other, and those that read are parsed first. -/
theorem compileArguments_cons (arg : Value) (args : List Value) :
    compileArguments r (arg :: args) =
      match arg.readElements? with
      | none => do
        let rest ← compileArguments r args
        return .constant (arg.quoted?.getD arg) :: rest
      | some elements => do
        let p ← Pipeline.parse elements
        let read ← p.compile r
        read.withoutDirectives .argument
        let rest ← compileArguments r args
        return .read read :: rest := by
  rw [compileArguments]
  split
  case h_1 hreads => rw [hreads]
  case h_2 elements hreads =>
    simp only [hreads]
    split
    case h_1 e hparsed => rw [hparsed]; rfl
    case h_2 p hparsed => rw [hparsed]; rfl

theorem Value.readElements?_name (name : String) :
    (Value.array [.string name]).readElements? = some [.string name] := by
  simp [readElements?, quoted?]

theorem Pipeline.parse_name (name : String) :
    Pipeline.parse [.string name] = .ok (.access (.name name)) := by
  simp [parse, parseAccessor]

/-- A single argument that names a field reads it. -/
theorem compileArguments_name (name : String) :
    compileArguments r [.array [.string name]] =
      .ok [.read (.reading (.key (.name name)))] := by
  rw [compileArguments_cons, Value.readElements?_name, compileArguments]
  simp [Pipeline.parse_name, Pipeline.compile, Compiled.reading, Compiled.withoutDirectives, bind,
    Except.bind, pure, Except.pure]

theorem Value.eq_array_of_readElements? {arg : Value} {elements : List Value}
    (h : arg.readElements? = some elements) : arg = .array elements := by
  unfold readElements? at h
  split at h
  · obtain ⟨-, h⟩ := Option.ite_none_right_eq_some.1 h
    rw [Option.some.inj h]
  · cases h

theorem Value.itemsWeight_le_of_readElements? {arg : Value} {elements : List Value}
    (h : arg.readElements? = some elements) : 2 + itemsWeight elements ≤ arg.weight := by
  rw [eq_array_of_readElements? h]
  exact Nat.le_refl _

end Reshape
