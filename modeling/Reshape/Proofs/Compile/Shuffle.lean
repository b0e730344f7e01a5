import Reshape.Compile.Query
import Reshape.Proofs.Compile.Basic
import Reshape.Proofs.Compile.Directives
import Reshape.Proofs.Compile.Predicate
import Reshape.Proofs.Node.Shuffle
import Reshape.Value.Identity

/-!
# Queries and the order of fields in their input

A query of built-in names can let the order of an object's fields through into its output in two
ways only: by calling `Transform.concat`, which prints objects, and by copying leftovers of names
into an array. Functions and folds that an application adds may do so too (`Selector.ShowsOrder`). A
query with none of these makes of an input with its fields rearranged what it makes of the input,
rearranged. Operators of predicates are taken to be built-in ones, because the test of one that an
application adds may look at the order.

Each form of selector is shown to make shuffled values of shuffled values as soon as its parts do.
The selectors among the arguments of a call are known only once they are parsed, so the induction is
on the weight, as the recursion of compiling is.
-/

namespace Reshape

open Value (Shuffled shuffled_refl)

variable {r : Resolver}

/-! ## Predicates -/

theorem Value.Shuffled.under? {a b : Value} (h : a.Shuffled b) (key : String) :
    Option.Rel Shuffled (a.under? key) (b.under? key) := by
  rw [← part?_eq_under?, ← part?_eq_under?]
  cases a with
  | array as =>
    obtain ⟨bs, rfl, -⟩ := h.exists_items
    exact rel_bind (rel_same (R := Eq) (fun _ => rfl) _) fun _ n hn => hn ▸ h.at? n
  | object as =>
    obtain ⟨bs, cs, rfl, -⟩ := h.exists_fields
    exact h.get? key
  | _ =>
    obtain rfl := h.eq_of_isTerminal rfl
    exact rel_same shuffled_refl _

namespace Predicate

variable {v w : Option Value}

theorem holdsCompared_shuffled (h : Option.Rel Shuffled v w) (c : Comparison) (p : Predicate) :
    p.HoldsCompared c v ↔ p.HoldsCompared c w := by
  cases h with
  | none => exact Iff.rfl
  | some h => simp [HoldsCompared, h.compare?_left]

theorem holdsMatched_shuffled (h : Option.Rel Shuffled v w) (engine : PatternEngine)
    (p : Predicate) : p.HoldsMatched engine v ↔ p.HoldsMatched engine w := by
  have hstring : ∀ s, v = some (.string s) ↔ w = some (.string s) := by
    intro s
    cases h with
    | none => exact Iff.rfl
    | some h =>
      rw [Option.some_inj, Option.some_inj]
      refine iff_of_eq (h.congr (f := (· = Value.string s)) fun v => ?_)
      cases v <;> simp [Value.shell]
  simp only [HoldsMatched, hstring]

/-- A predicate is true of shuffled values alike. -/
theorem holds_shuffled (hr : r.HasBuiltinOperators) (p : Predicate) (h : Option.Rel Shuffled v w) :
    p.Holds r v ↔ p.Holds r w := by
  induction p using induction generalizing v w with
  | equals expected =>
    cases h with
    | none => exact Iff.rfl
    | some h => simp [Holds, h.equal_eq]
  | all entries ih =>
    rw [Holds, Holds, allHold_iff, allHold_iff]
    refine forall₂_congr fun entry hentry => ?_
    unfold HoldsUnder
    cases hoperator : r.operator? entry.1 with
    | none => exact ih entry hentry (rel_bind h fun _ _ h => h.under? entry.1)
    | some operator =>
      cases operator with
      | negation => exact not_congr (ih entry hentry h)
      | comparison c => exact holdsCompared_shuffled h c entry.2
      | pattern engine => exact holdsMatched_shuffled h engine entry.2
      | custom f => exact (hr entry.1 _ hoperator).elim
  | any alternatives ih =>
    rw [Holds, Holds, anyHolds_iff, anyHolds_iff]
    exact exists_congr fun p => and_congr_right fun hp => ih p hp h

theorem test_shuffled (hr : r.HasBuiltinOperators) {p : Predicate} {test : Test}
    (htest : p.compile r = .ok test) (h : Option.Rel Shuffled v w) : test v = test w := by
  rw [Bool.eq_iff_iff, decided p test htest, decided p test htest]
  exact p.holds_shuffled hr h

end Predicate

/-! ## Calls and chains -/

theorem Transform.keepsShuffled_ofInput {f : Transform} (hf : ¬f.ShowsOrder) :
    KeepsShuffled f.ofInput := by
  intro v w h
  exact rel_map h fun _ _ h => apply_shuffled hf (.cons h .nil)

theorem Transform.keepsShuffled_call {f : Transform} (hf : ¬f.ShowsOrder) {name : String}
    {written : List Value} {args : List Argument} {c : Compiled}
    (h : f.call name written args = .ok c)
    (hargs : ∀ read, .read read ∈ args → KeepsShuffled read.mapper) : KeepsShuffled c.mapper := by
  unfold call at h
  split at h
  case h_1 read hread =>
    have hmem : .read read ∈ args := by
      obtain ⟨arg, harg, heq⟩ := List.mem_filterMap.1 (hread ▸ List.mem_singleton_self read)
      cases arg with
      | read c =>
        cases heq
        exact harg
      | constant v => cases heq
    split at h
    · exact absurd h refuse_ne_ok
    · cases h
      intro v w hvw
      refine rel_map (hargs read hmem v w hvw) fun v w hvw => apply_shuffled hf ?_
      exact forall₂_set_same shuffled_refl hvw _ _
  case h_2 => exact absurd h refuse_ne_ok

theorem firstSlot_shuffled {a b : Value} (h : a.Shuffled b) :
    Option.Rel Shuffled (firstSlot a) (firstSlot b) := by
  cases a with
  | array as =>
    obtain ⟨bs, rfl, hslots⟩ := h.exists_items
    rw [firstSlot, firstSlot, List.head?_eq_getElem?, List.head?_eq_getElem?]
    exact forall₂_getElem? hslots 0
  | object as =>
    obtain ⟨bs, cs, rfl, -⟩ := h.exists_fields
    exact .none
  | _ =>
    obtain rfl := h.eq_of_isTerminal rfl
    exact .none

namespace Compiled

/-- Whether a compiled selector makes shuffled values of shuffled values, and its aggregation, if it
has one, does not show the order of fields. -/
structure KeepsShuffled (c : Compiled) : Prop where
  mapper : Reshape.KeepsShuffled c.mapper
  aggregation : ∀ a, c.aggregation = some a → ¬a.ShowsOrder

theorem keepsShuffled_of_eq_none {c : Compiled} (hmapper : Reshape.KeepsShuffled c.mapper)
    (haggregation : c.aggregation = none) : c.KeepsShuffled :=
  ⟨hmapper, fun _ h => nomatch haggregation.symm.trans h⟩

theorem keepsShuffled_toEntry {c : Compiled} (h : c.KeepsShuffled) (dest : Key) :
    (c.toEntry dest).KeepsShuffled := by
  unfold toEntry
  split
  · trivial
  · exact ⟨h.mapper, h.aggregation⟩
  · exact ⟨h.mapper, h.aggregation⟩

theorem keepsShuffled_toRemaining {c : Compiled} (h : Reshape.KeepsShuffled c.mapper)
    {remaining : Remaining} (hremaining : c.toRemaining = .ok remaining) :
    remaining.KeepsShuffled := by
  unfold toRemaining at hremaining
  split at hremaining
  · cases hremaining
  · split at hremaining
    · cases hremaining
      trivial
    · cases hremaining
      exact h
    · exact absurd hremaining refuse_ne_ok

theorem keepsShuffled_stepNode {tail : Compiled} (h : Reshape.KeepsShuffled tail.mapper) :
    tail.stepNode.KeepsShuffled := by
  have hentry : tail.stepEntry.KeepsShuffled := ⟨h, fun _ haggregation => nomatch haggregation⟩
  refine Node.keepsShuffled_plan (List.forall_mem_singleton.2 hentry) trivial ?_ fun _ => rfl
  intro test htest
  cases htest

/-- The step of a chain makes shuffled values of shuffled values if its tail does. -/
theorem step_shuffled {tail : Compiled} (h : Reshape.KeepsShuffled tail.mapper) {v w : Value}
    (hvw : v.Shuffled w) : Option.Rel Shuffled (tail.step v) (tail.step w) := by
  refine rel_bind ((keepsShuffled_stepNode h).apply hvw) fun a b hab => ?_
  rw [hvw.isArray_eq]
  split
  · cases a with
    | array as =>
      obtain ⟨bs, rfl, htuples⟩ := hab.exists_items
      refine .some (Value.shuffledItems_iff_forall₂.2 ?_)
      exact List.rel_filterMap (fun _ _ h => firstSlot_shuffled h) htuples
    | object as =>
      obtain ⟨bs, cs, rfl, -⟩ := hab.exists_fields
      exact .none
    | _ =>
      obtain rfl := hab.eq_of_isTerminal rfl
      exact .none
  · exact firstSlot_shuffled hab

theorem keepsShuffled_chain {head tail : Compiled} (hhead : head.KeepsShuffled)
    (htail : tail.KeepsShuffled) : (chain head tail).KeepsShuffled where
  mapper v w hvw := rel_bind (hhead.mapper v w hvw) fun _ _ h => step_shuffled htail.mapper h
  aggregation a ha := by
    rcases Option.or_eq_some_iff.1 ha with ha | ⟨-, ha⟩
    · exact htail.aggregation a ha
    · exact hhead.aggregation a ha

end Compiled

/-! ## Selectors -/

mutual

/-- Whether the order of an object's fields can come through a selector into the output. -/
inductive Selector.ShowsOrder (r : Resolver) : Selector → Prop
  | named {name : String} {f : Transform} (aggregation : r.aggregation? name = none)
      (function : r.function? name = some f) (shows : f.ShowsOrder) :
      Selector.ShowsOrder r (.named name)
  | aggregation {name : String} {a : Aggregation} (aggregation : r.aggregation? name = some a)
      (shows : a.ShowsOrder) : Selector.ShowsOrder r (.named name)
  | pipeline {p : Pipeline} (h : Pipeline.ShowsOrder r p) : Selector.ShowsOrder r (.pipeline p)
  | fields {f : FieldSelector} (h : FieldSelector.ShowsOrder r f) :
      Selector.ShowsOrder r (.fields f)

/-- The same for a pipeline. -/
inductive Pipeline.ShowsOrder (r : Resolver) : Pipeline → Prop
  | nested {f : FieldSelector} (h : FieldSelector.ShowsOrder r f) :
      Pipeline.ShowsOrder r (.nested f)
  | call {name : String} {args : List Value} {f : Transform}
      (function : r.function? name = some f) (shows : f.ShowsOrder) :
      Pipeline.ShowsOrder r (.call name args)
  | argument {name : String} {args : List Value} {f : Transform}
      (function : r.function? name = some f) {arg : Value} (mem : arg ∈ args)
      {elements : List Value} (reads : arg.readElements? = some elements) {p : Pipeline}
      (parsed : Pipeline.parse elements = .ok p) (h : Pipeline.ShowsOrder r p) :
      Pipeline.ShowsOrder r (.call name args)
  | aggregation {name : String} {args : List Value} {a : Aggregation}
      (function : r.function? name = none) (aggregation : r.aggregation? name = some a)
      (shows : a.ShowsOrder) : Pipeline.ShowsOrder r (.call name args)
  | aggregated {name : String} {args : List Value} (function : r.function? name = none)
      {s : Selector} (parsed : Selector.parseRest args = .ok s) (h : Selector.ShowsOrder r s) :
      Pipeline.ShowsOrder r (.call name args)
  | head {head tail : Selector} (h : Selector.ShowsOrder r head) :
      Pipeline.ShowsOrder r (.chain head tail)
  | tail {head tail : Selector} (h : Selector.ShowsOrder r tail) :
      Pipeline.ShowsOrder r (.chain head tail)

/-- The same for an object selector. -/
inductive FieldSelector.ShowsOrder (r : Resolver) : FieldSelector → Prop
  /-- Leftovers have names and are copied into an array. -/
  | copied {f : FieldSelector} {node : Node} (compiled : f.node r = .ok node)
      (strategy : node.strategy = ⟨.name, .position⟩) (copies : node.remaining.isSome) :
      FieldSelector.ShowsOrder r f
  | field {fields : List (String × Selector)} {remaining : Option Selector}
      {filter : Option Predicate} {entry : String × Selector} (mem : entry ∈ fields)
      (h : Selector.ShowsOrder r entry.2) :
      FieldSelector.ShowsOrder r (.mk fields remaining filter)
  | remaining {fields : List (String × Selector)} {s : Selector} {filter : Option Predicate}
      (h : Selector.ShowsOrder r s) : FieldSelector.ShowsOrder r (.mk fields (some s) filter)

end

/-! ### Parts of a selector -/

/-- Whether a selector, if it compiles, makes shuffled values of shuffled values. -/
def Selector.KeepsShuffled (r : Resolver) (s : Selector) : Prop :=
  ∀ c, s.compile r = .ok c → c.KeepsShuffled

/-- The same for a pipeline. -/
def Pipeline.KeepsShuffled (r : Resolver) (p : Pipeline) : Prop :=
  ∀ c, p.compile r = .ok c → c.KeepsShuffled

/-- The same for an object selector. -/
def FieldSelector.KeepsShuffled (r : Resolver) (f : FieldSelector) : Prop :=
  ∀ c, f.compile r = .ok c → c.KeepsShuffled

/-- The reads among the arguments of a call do what their pipelines do. -/
theorem keepsShuffled_of_compileArguments {args : List Value} {compiled : List Argument}
    (h : compileArguments r args = .ok compiled)
    (hargs : ∀ arg ∈ args, ∀ elements p, arg.readElements? = some elements →
      Pipeline.parse elements = .ok p → p.KeepsShuffled r) :
    ∀ read, .read read ∈ compiled → KeepsShuffled read.mapper := by
  induction args generalizing compiled with
  | nil =>
    rw [compileArguments] at h
    cases h
    exact fun _ hmem => absurd hmem List.not_mem_nil
  | cons arg args ih =>
    obtain ⟨harg, hargs⟩ := List.forall_mem_cons.1 hargs
    rw [compileArguments_cons] at h
    intro read hmem
    split at h
    case h_1 =>
      obtain ⟨rest, hrest, h⟩ := bind_eq_ok.1 h
      cases h
      rcases List.mem_cons.1 hmem with heq | hmem
      · cases heq
      · exact ih hrest hargs read hmem
    case h_2 elements hreads =>
      obtain ⟨p, hparsed, h⟩ := bind_eq_ok.1 h
      obtain ⟨c, hc, h⟩ := bind_eq_ok.1 h
      obtain ⟨_, -, h⟩ := bind_eq_ok.1 h
      obtain ⟨rest, hrest, h⟩ := bind_eq_ok.1 h
      cases h
      rcases List.mem_cons.1 hmem with heq | hmem
      · cases heq
        exact (harg elements p hreads hparsed _ hc).mapper
      · exact ih hrest hargs read hmem

theorem keepsShuffled_of_compileEntries {fields : List (String × Selector)} {entries : List Entry}
    {notices : List Notice} (h : compileEntries r fields = .ok (entries, notices))
    (hfields : ∀ entry ∈ fields, entry.2.KeepsShuffled r) : ∀ e ∈ entries, e.KeepsShuffled := by
  induction fields generalizing entries notices with
  | nil =>
    rw [compileEntries] at h
    cases h
    exact fun _ hmem => absurd hmem List.not_mem_nil
  | cons entry fields ih =>
    obtain ⟨-, c, rest, restNotices, hc, hrest, rfl, -⟩ := compileEntries_cons_eq_ok.1 h
    obtain ⟨hentry, hfields⟩ := List.forall_mem_cons.1 hfields
    exact List.forall_mem_cons.2
      ⟨Compiled.keepsShuffled_toEntry (hentry c hc) _, ih hrest hfields⟩

theorem keepsShuffled_of_compileRemaining {remaining : Option Selector} {copied : Remaining}
    {notices : List Notice} (h : compileRemaining r remaining = .ok (copied, notices))
    (hremaining : ∀ s, remaining = some s → s.KeepsShuffled r) : copied.KeepsShuffled := by
  cases remaining with
  | none =>
    rw [compileRemaining] at h
    cases h
    trivial
  | some s =>
    rw [compileRemaining] at h
    obtain ⟨c, hc, h⟩ := bind_eq_ok.1 h
    obtain ⟨copied, hcopied, h⟩ := bind_eq_ok.1 h
    cases h
    exact Compiled.keepsShuffled_toRemaining (hremaining s rfl c (located_eq_ok.1 hc)).mapper
      (located_eq_ok.1 hcopied)

theorem test_shuffled_of_compileFilter (hr : r.HasBuiltinOperators) {filter : Option Predicate}
    {test : Test} (h : compileFilter r filter = .ok (some test)) {v w : Option Value}
    (hvw : Option.Rel Shuffled v w) : test v = test w := by
  cases filter with
  | none => cases h
  | some p =>
    obtain ⟨test, htest, heq⟩ := map_eq_ok.1 h
    cases heq
    exact Predicate.test_shuffled hr (located_eq_ok.1 htest) hvw

/-- An object selector keeps values shuffled if its parts do and it copies no leftovers of names
into an array. -/
theorem FieldSelector.keepsShuffled_mk (hr : r.HasBuiltinOperators)
    {fields : List (String × Selector)} {remaining : Option Selector} {filter : Option Predicate}
    (hfields : ∀ entry ∈ fields, entry.2.KeepsShuffled r)
    (hremaining : ∀ s, remaining = some s → s.KeepsShuffled r)
    (hcopied : ∀ node, (mk fields remaining filter).node r = .ok node →
      node.strategy = ⟨.name, .position⟩ → node.remaining = none) :
    (mk fields remaining filter).KeepsShuffled r := by
  intro c h
  refine Compiled.keepsShuffled_of_eq_none ?_ (directives_of_compile h).1
  have hmapper := mapper_compile (r := r) (mk fields remaining filter)
  rw [h] at hmapper
  obtain ⟨node, hnode, hc⟩ := map_eq_ok.1 hmapper.symm
  obtain ⟨entries, notices, copied, copiedNotices, test, hentries, hcopies, htest, rfl⟩ :=
    node_eq_ok.1 hnode
  have hkeeps : (Node.plan entries copied test).KeepsShuffled := by
    refine Node.keepsShuffled_plan (keepsShuffled_of_compileEntries hentries hfields)
      (keepsShuffled_of_compileRemaining hcopies hremaining) ?_ (hcopied _ hnode)
    rintro test rfl v w hvw
    exact test_shuffled_of_compileFilter hr htest hvw
  rw [← hc]
  exact fun v w hvw => rel_bind hvw fun _ _ h => hkeeps.apply h

/-- The call of a function keeps values shuffled if the function does not show the order of fields
and the pipelines among the arguments keep them. -/
theorem Pipeline.keepsShuffled_call {name : String} {args : List Value} {f : Transform}
    (hfunction : r.function? name = some f) (hf : ¬f.ShowsOrder)
    (hargs : ∀ arg ∈ args, ∀ elements p, arg.readElements? = some elements →
      Pipeline.parse elements = .ok p → p.KeepsShuffled r) :
    (Pipeline.call name args).KeepsShuffled r := by
  intro c h
  obtain ⟨f', compiled, hfunction', hcompiled, hcall⟩ | ⟨a, s, rest, hfunction', -⟩ :=
    compile_call_eq_ok.1 h
  · obtain rfl := Option.some.inj (hfunction.symm.trans hfunction')
    exact Compiled.keepsShuffled_of_eq_none
      (Transform.keepsShuffled_call hf hcall (keepsShuffled_of_compileArguments hcompiled hargs))
      (Transform.directives_of_call hcall).1
  · cases hfunction.symm.trans hfunction'

/-- An aggregation that does not show the order of fields keeps values shuffled if what stands
behind its name does. -/
theorem Pipeline.keepsShuffled_aggregated {name : String} {args : List Value}
    (hfunction : r.function? name = none)
    (haggregation : ∀ a, r.aggregation? name = some a → ¬a.ShowsOrder)
    (hrest : ∀ s, Selector.parseRest args = .ok s → s.KeepsShuffled r) :
    (Pipeline.call name args).KeepsShuffled r := by
  intro c h
  obtain ⟨f, compiled, hfunction', -⟩ | ⟨a, s, rest, -, hnamed, hparsed, hs, -, -, rfl⟩ :=
    compile_call_eq_ok.1 h
  · cases hfunction.symm.trans hfunction'
  · refine ⟨(hrest s hparsed rest hs).mapper, ?_⟩
    rintro _ ⟨⟩
    exact haggregation a hnamed

theorem Pipeline.keepsShuffled_chain {head tail : Selector} (hhead : head.KeepsShuffled r)
    (htail : tail.KeepsShuffled r) : (Pipeline.chain head tail).KeepsShuffled r := by
  intro c h
  obtain ⟨chead, ctail, hchead, -, hctail, -, rfl⟩ := compile_chain_eq_ok.1 h
  exact Compiled.keepsShuffled_chain (hhead chead hchead) (htail ctail hctail)

/-! ### The whole selector -/

mutual

/-- A selector that does not show the order of fields makes shuffled values of shuffled values. -/
theorem Selector.keepsShuffled (hr : r.HasBuiltinOperators) (s : Selector) (h : ¬s.ShowsOrder r) :
    s.KeepsShuffled r := by
  intro c hc
  match s, h with
  | .exclude, _ | .copy, _ | .sort _, _ =>
    rw [Selector.compile] at hc
    cases hc
    exact Compiled.keepsShuffled_of_eq_none (fun _ _ hvw => hvw) rfl
  | .named name, h =>
    obtain ⟨a, haggregation, rfl⟩ | ⟨f, haggregation, hfunction, rfl⟩ :=
      Selector.compile_named_eq_ok.1 hc
    · refine ⟨fun _ _ hvw => hvw, ?_⟩
      rintro _ ⟨⟩ hshows
      exact h (.aggregation haggregation hshows)
    · have hf : ¬f.ShowsOrder := fun hshows => h (.named haggregation hfunction hshows)
      exact Compiled.keepsShuffled_of_eq_none (Transform.keepsShuffled_ofInput hf) rfl
  | .pipeline p, h =>
    rw [Selector.compile] at hc
    exact p.keepsShuffled hr (fun hp => h (.pipeline hp)) c hc
  | .fields f, h =>
    rw [Selector.compile] at hc
    exact f.keepsShuffled hr (fun hf => h (.fields hf)) c hc
termination_by s.weight
decreasing_by all_goals simp only [Selector.weight]; omega

theorem Pipeline.keepsShuffled (hr : r.HasBuiltinOperators) (p : Pipeline) (h : ¬p.ShowsOrder r) :
    p.KeepsShuffled r := by
  match p, h with
  | .identity, _ | .access _, _ =>
    intro c hc
    rw [Pipeline.compile] at hc
    cases hc
    exact Compiled.keepsShuffled_of_eq_none (fun _ _ hvw => hvw) rfl
  | .constant v, _ =>
    intro c hc
    rw [Pipeline.compile] at hc
    cases hc
    exact Compiled.keepsShuffled_of_eq_none (fun _ _ _ => .some (shuffled_refl v)) rfl
  | .nested f, h =>
    intro c hc
    rw [Pipeline.compile] at hc
    exact f.keepsShuffled hr (fun hf => h (.nested hf)) c hc
  | .call name args, h =>
    cases hfunction : r.function? name with
    | some f =>
      refine Pipeline.keepsShuffled_call hfunction ?_ fun arg mem elements p reads parsed => ?_
      · exact fun hshows => h (.call hfunction hshows)
      · have harg := weight_le_itemsWeight mem
        have helements := Value.itemsWeight_le_of_readElements? reads
        have hp := Pipeline.weight_le_of_parse _ parsed
        exact p.keepsShuffled hr fun hp => h (.argument hfunction mem reads parsed hp)
    | none =>
      refine Pipeline.keepsShuffled_aggregated hfunction ?_ fun s parsed => ?_
      · exact fun a haggregation hshows => h (.aggregation hfunction haggregation hshows)
      · have hs := Selector.weight_le_of_parseRest parsed
        exact s.keepsShuffled hr fun hs => h (.aggregated hfunction parsed hs)
  | .chain head tail, h =>
    exact Pipeline.keepsShuffled_chain (head.keepsShuffled hr fun hs => h (.head hs))
      (tail.keepsShuffled hr fun hs => h (.tail hs))
termination_by p.weight
decreasing_by all_goals simp only [Pipeline.weight]; omega

theorem FieldSelector.keepsShuffled (hr : r.HasBuiltinOperators) (f : FieldSelector)
    (h : ¬f.ShowsOrder r) : f.KeepsShuffled r := by
  match f, h with
  | .mk fields remaining filter, h =>
    refine FieldSelector.keepsShuffled_mk hr (fun entry mem => ?_) (fun s hs => ?_)
      fun node hnode hstrategy => ?_
    · have hentry := weight_lt_entriesWeight mem
      exact entry.2.keepsShuffled hr fun hs => h (.field mem hs)
    · have hremaining : remainingWeight remaining = 1 + s.weight := by rw [hs, remainingWeight]
      exact s.keepsShuffled hr fun hshows => h (hs ▸ .remaining hshows)
    · exact Option.not_isSome_iff_eq_none.1 fun hcopies => h (.copied hnode hstrategy hcopies)
termination_by f.weight
decreasing_by all_goals simp only [FieldSelector.weight]; omega

end

/-! ## Queries -/

/-- Of an input whose fields stand in another order, a query that does not show the order of fields
and asks built-in operators makes the output with its fields in another order, or none of both. -/
theorem Query.apply_rearranged (hr : r.HasBuiltinOperators) {written : Value} {s : Selector}
    (hparse : Selector.parse written = .ok s) (hfree : ¬s.ShowsOrder r) {q : Query}
    (hcompile : Query.compile r written = .ok q) {v w : Value} (hnames : v.DistinctNames)
    (h : v.Rearranged w) : Option.Rel Value.Rearranged (q.apply v) (q.apply w) := by
  obtain ⟨s', hs', hcompile⟩ := bind_eq_ok.1 hcompile
  obtain ⟨c, hc, hcompile⟩ := bind_eq_ok.1 hcompile
  obtain ⟨_, -, hcompile⟩ := bind_eq_ok.1 hcompile
  cases hcompile
  cases hparse.symm.trans hs'
  have hmapper := (s.keepsShuffled hr hfree c hc).mapper
  have hvw := h.shuffled hnames
  have happly : Option.Rel Shuffled (Query.apply ⟨c.source, c.mapper, c.notices⟩ v)
      (Query.apply ⟨c.source, c.mapper, c.notices⟩ w) := by
    unfold Query.apply
    cases c.source with
    | excluded => exact .none
    | same => exact hmapper _ _ (.some hvw)
    | key k => exact hmapper _ _ (hvw.index? k)
  exact rel_mono happly fun _ _ h => h.rearranged

/-- Animals are listed by owner and city, with the number of things known of the owner, and it does
not matter in which order the records and the owners are written. -/
theorem Query.owners_in_any_order :
    let written := Value.object [("owner", .bool true),
      ("known", .array [.string "length", .array [.string "owner"]]), ("animal", .string "values"),
      ("*", .bool true)]
    let ann := Value.object [("name", .string "Ann"), ("age", .int 30)]
    let ann' := Value.object [("age", .int 30), ("name", .string "Ann")]
    let input := Value.array [
      .object [("owner", ann), ("animal", .string "dog"), ("city", .string "Ely")],
      .object [("city", .string "Ely"), ("owner", ann'), ("animal", .string "cat")]]
    let input' := Value.array [
      .object [("city", .string "Ely"), ("animal", .string "dog"), ("owner", ann')],
      .object [("owner", ann'), ("animal", .string "cat"), ("city", .string "Ely")]]
    let output (owner : Value) := Value.array [.object [("owner", owner), ("known", .int 2),
      ("animal", .array [.string "dog", .string "cat"]), ("city", .string "Ely")]]
    Resolver.standard.HasBuiltinOperators ∧ ∃ s q, Selector.parse written = .ok s ∧
      ¬s.ShowsOrder .standard ∧ Query.compile .standard written = .ok q ∧
      input.DistinctNames ∧ input.Rearranged input' ∧
      Option.Rel Value.Rearranged (q.apply input) (q.apply input') ∧
      q.apply input = some (output ann) ∧ q.apply input' = some (output ann') := by
  intro written ann ann' input input' output
  let known := Pipeline.call "length" [.array [.string "owner"]]
  let fields := [("owner", Selector.copy), ("known", .pipeline known), ("animal", .named "values")]
  let f := FieldSelector.mk fields (some .copy) none
  let size : Mapper := fun v => v.map fun v => Transform.length.apply ([Value.null].set 0 v)
  let entries : List Entry := [.field ⟨.name "owner", .name "owner", id, none, none⟩,
    .field ⟨.name "known", .name "owner", size, none, none⟩,
    .field ⟨.name "animal", .name "animal", id, some (.fold .values), none⟩]
  have hparse : Selector.parse written = .ok (.fields f) := by
    simp [written, f, fields, known, FieldSelector.parse, Selector.parse, Pipeline.parse,
      selectAllKey, filterKey, located, FieldSelector.fields, FieldSelector.remaining,
      FieldSelector.filter, bind, Except.bind, pure, Except.pure, Functor.map, Except.map,
      Value.toString?]
  have hargument := compileArguments_name (r := .standard) "owner"
  have howner : Resolver.standard.key "owner" = .name "owner" := by decide
  have hknown : Resolver.standard.key "known" = .name "known" := by decide
  have hanimal : Resolver.standard.key "animal" = .name "animal" := by decide
  have hlength : Resolver.standard.function? "length" = some .length := rfl
  have hvalues : Resolver.standard.aggregation? "values" = some (.fold .values) := rfl
  have hentries : compileEntries .standard fields = .ok (entries, []) := by
    simp [fields, known, entries, size, compileEntries, Selector.compile, Pipeline.compile, howner,
      hknown, hanimal, hlength, hvalues, hargument, located, checkDestination, Compiled.toEntry,
      Compiled.reading, Transform.call, Argument.read?, Argument.template, bind, Except.bind, pure,
      Except.pure]
  have hcopied : compileRemaining .standard (some .copy) = .ok (.copied id, []) := by
    simp [compileRemaining, Selector.compile, located, Compiled.toRemaining,
      Compiled.withoutDirectives, Compiled.reading, bind, Except.bind, pure, Except.pure]
  let mapper : Mapper := fun v => v.bind (Node.plan entries (.copied id) none).apply
  have hcompile :
      Query.compile .standard written = .ok ⟨.same, mapper, Node.planNotices entries⟩ := by
    simp [mapper, Query.compile, hparse, f, Selector.compile, FieldSelector.compile, hentries,
      hcopied, compileFilter, Compiled.reading, Compiled.withoutDirectives, bind, Except.bind, pure,
      Except.pure]
  have hfree : ¬(Selector.fields f).ShowsOrder .standard := by
    intro hshows
    obtain ⟨⟩ | ⟨⟩ | ⟨⟩ | ⟨hf⟩ := hshows
    change FieldSelector.ShowsOrder .standard (.mk fields (some .copy) none) at hf
    cases hf with
    | copied compiled strategy copies =>
      cases (FieldSelector.node_eq_ok.2
        ⟨_, _, _, _, none, hentries, hcopied, rfl, rfl⟩).symm.trans compiled
      cases strategy
    | field mem h =>
      simp only [fields, List.mem_cons, List.not_mem_nil, or_false] at mem
      rcases mem with rfl | rfl | rfl
      · cases h
      · obtain ⟨⟩ | ⟨⟩ | ⟨hcall⟩ := h
        change Pipeline.ShowsOrder .standard (.call "length" [.array [.string "owner"]]) at hcall
        rcases hcall with _ | ⟨function, shows⟩ | ⟨function, mem, reads, parsed, h⟩ |
          ⟨function, -, -⟩ | ⟨function, -, -⟩
        · cases hlength.symm.trans function
          exact shows
        · obtain rfl := List.mem_singleton.1 mem
          cases (Value.readElements?_name "owner").symm.trans reads
          cases (Pipeline.parse_name "owner").symm.trans parsed
          cases h
        · cases hlength.symm.trans function
        · cases hlength.symm.trans function
      · rcases h with ⟨aggregation, -, -⟩ | ⟨aggregation, shows⟩
        · cases hvalues.symm.trans aggregation
        · cases hvalues.symm.trans aggregation
          exact shows
    | remaining h => cases h
  have hnames : input.DistinctNames := by
    simp [input, ann, ann', Value.DistinctNames, Value.Over, Value.OverItems, Value.OverFields]
  have hann : ann.Rearranged ann' :=
    ⟨[("name", .string "Ann"), ("age", .int 30)], ⟨rfl, rfl, rfl, rfl, trivial⟩, by decide⟩
  have hann' : ann'.Rearranged ann' :=
    ⟨[("age", .int 30), ("name", .string "Ann")], ⟨rfl, rfl, rfl, rfl, trivial⟩, by decide⟩
  have hrearranged : input.Rearranged input' := by
    refine ⟨⟨[("owner", ann'), ("animal", .string "dog"), ("city", .string "Ely")], ?_, by decide⟩,
      ⟨[("city", .string "Ely"), ("owner", ann'), ("animal", .string "cat")], ?_, by decide⟩,
      trivial⟩
    · exact ⟨rfl, hann, rfl, rfl, rfl, rfl, trivial⟩
    · exact ⟨rfl, rfl, rfl, hann', rfl, rfl, trivial⟩
  have hr := Resolver.standard_hasBuiltinOperators
  exact ⟨hr, _, _, hparse, hfree, hcompile, hnames, hrearranged,
    Query.apply_rearranged hr hparse hfree hcompile hnames hrearranged, by decide +kernel,
    by decide +kernel⟩

end Reshape
