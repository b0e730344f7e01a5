import Reshape.Proofs.Compile.Basic
import Reshape.Proofs.Compile.Directives
import Reshape.Proofs.Node.GroupBy
import Reshape.Value.Identity
import Reshape.Vocabulary.Standard

/-!
# Grouping of object selectors

What a grouped object selector means in terms of another one: the object selector that is left when
the aggregation directives of its fields are taken off. That one gives an object for every record,
and the grouped one gives these objects grouped, with one object for each group.
-/

namespace Reshape

variable {r : Resolver}

/-- The fields of an object selector, each without its aggregation directive. -/
def fieldsWithoutAggregation (r : Resolver) :
    List (String × Selector) → Except CompileError (List (String × Selector))
  | [] => .ok []
  | (raw, s) :: fields => do
    let s ← s.withoutAggregation r
    let fields ← fieldsWithoutAggregation r fields
    return (raw, s) :: fields

/-- The object selector without the aggregation directives of its own fields. -/
def FieldSelector.withoutAggregation (r : Resolver) :
    FieldSelector → Except CompileError FieldSelector
  | .mk fields remaining filter => do
    let fields ← fieldsWithoutAggregation r fields
    return .mk fields remaining filter

theorem Compiled.toEntry_withoutAggregation (c : Compiled) (dest : Key) :
    c.withoutAggregation.toEntry dest = (c.toEntry dest).withoutAggregation := by
  rw [toEntry, toEntry, source_withoutAggregation]
  cases c.source <;> rfl

/-- Fields compile to the same entries without their aggregation directives. -/
theorem compileEntries_withoutAggregation {fields : List (String × Selector)}
    {entries : List Entry} {notices : List Notice}
    (h : compileEntries r fields = .ok (entries, notices)) :
    ∃ fields', fieldsWithoutAggregation r fields = .ok fields' ∧
      compileEntries r fields' = .ok (entries.map Entry.withoutAggregation, notices) := by
  induction fields generalizing entries notices with
  | nil =>
    rw [compileEntries] at h
    cases h
    exact ⟨[], rfl, by rw [compileEntries]; rfl⟩
  | cons field fields ih =>
    obtain ⟨raw, s⟩ := field
    obtain ⟨hcheck, c, rest, restNotices, hc, hrest, rfl, rfl⟩ := compileEntries_cons_eq_ok.1 h
    obtain ⟨s', hs', hc'⟩ := Selector.compile_withoutAggregation s hc
    obtain ⟨fields', hfields', hrest'⟩ := ih hrest
    refine ⟨(raw, s') :: fields', ?_, ?_⟩
    · rw [fieldsWithoutAggregation, hs', hfields']
      rfl
    · refine compileEntries_cons_eq_ok.2 ⟨hcheck, _, _, restNotices, hc', hrest', ?_, rfl⟩
      rw [c.toEntry_withoutAggregation, List.map_cons]

/-- What is left of an object selector without the aggregation directives of its fields becomes the
node that is left without them. -/
theorem FieldSelector.node_withoutAggregation {f : FieldSelector} {node : Node}
    (h : f.node r = .ok node) :
    ∃ f', f.withoutAggregation r = .ok f' ∧ f'.node r = .ok node.withoutAggregation := by
  obtain ⟨fields, remaining, filter⟩ := f
  obtain ⟨entries, notices, copied, copiedNotices, test, hentries, hcopied, htest, rfl⟩ :=
    node_eq_ok.1 h
  obtain ⟨fields', hfields', hentries'⟩ := compileEntries_withoutAggregation hentries
  refine ⟨.mk fields' remaining filter, ?_, ?_⟩
  · rw [FieldSelector.withoutAggregation, hfields']
    rfl
  · exact node_eq_ok.2 ⟨_, notices, copied, copiedNotices, test, hentries', hcopied, htest,
      Node.plan_withoutAggregation entries copied test⟩

/-- A grouped object selector that reads and writes names and does not sort makes of a list the
grouping of the objects that it gives for the records of the list without its aggregation
directives, and behind them what it makes of the lists inside the list. -/
theorem FieldSelector.apply_grouped (f : FieldSelector) {node : Node} (h : f.node r = .ok node)
    (hnames : node.strategy = ⟨.name, .name⟩) (hgrouped : node.isGrouped = true)
    (hsort : ∀ field ∈ node.fields, field.sort = none) :
    ∃ f' plain, f.withoutAggregation r = .ok f' ∧ f'.node r = .ok plain ∧
      ∀ items : List Value, ∃ records,
        (items.filter fun v => !v.isArray).filterMap plain.apply = records.map .object ∧
        node.apply (.array items) =
          some (.array ((groupRecords node.foldOf? records).map .object ++
            (items.filter Value.isArray).filterMap node.apply)) := by
  obtain ⟨f', hf', hplain⟩ := f.node_withoutAggregation h
  refine ⟨f', node.withoutAggregation, hf', hplain, fun items => ?_⟩
  exact Node.apply_array_of_isGrouped (planned_of_node h) hnames hgrouped hsort items

/-- Weights are summed for each kind of animal, apart from those of an inner list. -/
theorem FieldSelector.grouped_weights :
    let f := FieldSelector.mk [("kind", .copy), ("weight", .named "sum")] none none
    let animal (kind : String) (weight : Int64) :=
      Value.object [("kind", .string kind), ("weight", .int weight)]
    let items := [animal "dog" 10, .array [animal "dog" 1], animal "cat" 5, animal "dog" 20]
    ∃ node, f.node .standard = .ok node ∧
      (∃ f' plain, f.withoutAggregation .standard = .ok f' ∧ f'.node .standard = .ok plain ∧
        ∃ records,
          (items.filter fun v => !v.isArray).filterMap plain.apply = records.map .object ∧
          node.apply (.array items) =
            some (.array ((groupRecords node.foldOf? records).map .object ++
              (items.filter Value.isArray).filterMap node.apply))) ∧
      node.apply (.array items) =
        some (.array [animal "dog" 30, animal "cat" 5, .array [animal "dog" 1]]) := by
  intro f animal items
  let node : Node :=
    ⟨⟨.name, .name⟩, [⟨.name "kind", .name "kind", id, none, none⟩,
      ⟨.name "weight", .name "weight", id, some (.fold (.sum .standard)), none⟩], [], none, none,
      false⟩
  have hnode : f.node .standard = .ok node := by
    have hkind : Resolver.standard.key "kind" = .name "kind" := by decide
    have hweight : Resolver.standard.key "weight" = .name "weight" := by decide
    have hsum : Resolver.standard.aggregation? "sum" = some (.fold (.sum .standard)) := rfl
    simp [f, node, FieldSelector.node, compileEntries, compileRemaining, compileFilter,
      Selector.compile, hkind, hweight, hsum, located, checkDestination, Compiled.toEntry,
      Compiled.reading, bind, Except.bind, pure, Except.pure, Node.plan, Strategy.choose, Kept.of,
      Key.kind]
  have hsort : ∀ field ∈ node.fields, field.sort = none := by simp [node]
  obtain ⟨f', plain, hf', hplain, hall⟩ := f.apply_grouped hnode rfl rfl hsort
  exact ⟨node, hnode, ⟨f', plain, hf', hplain, hall items⟩, by decide +kernel⟩

end Reshape
