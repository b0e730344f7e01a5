import Reshape.Proofs.Compile.Basic
import Reshape.Proofs.Node.Filter
import Reshape.Value.Identity
import Reshape.Vocabulary.Standard

/-!
# Filters of object selectors

What the key `?` of an object selector means in terms of two others: the object selector of that key
alone and the one of all other keys. A selector that reads names filters first and then does the
rest, as if one query followed the other. A selector that reads positions does the rest to a value
that passes, as a whole.

Both need something besides the filter: alone it copies terminal values, and the selector without
any key makes empty objects of them.
-/

namespace Reshape

variable {r : Resolver}

theorem compileFilter_some_eq_ok {p : Predicate} {test? : Option Test}
    (h : compileFilter r (some p) = .ok test?) :
    ∃ test, p.compile r = .ok test ∧ test? = some test := by
  obtain ⟨test, htest, rfl⟩ := map_eq_ok.1 h
  exact ⟨test, located_eq_ok.1 htest, rfl⟩

/-- With the key `*` it is said what is done with leftovers. -/
theorem compileRemaining_ne_unspecified {s : Selector} {notices : List Notice} :
    compileRemaining r (some s) ≠ .ok (.unspecified, notices) := by
  intro h
  rw [compileRemaining] at h
  obtain ⟨c, -, h⟩ := bind_eq_ok.1 h
  obtain ⟨remaining, hremaining, h⟩ := bind_eq_ok.1 h
  cases h
  replace hremaining := located_eq_ok.1 hremaining
  unfold Compiled.toRemaining at hremaining
  split at hremaining
  · cases hremaining
  · split at hremaining
    · cases hremaining
    · cases hremaining
    · exact refuse_ne_ok hremaining

/-- An object selector that does something besides filtering does it, if it reads names, to what is
left of a value once it is filtered at every depth, and if it reads positions, to a value that
passes. -/
theorem FieldSelector.apply_filtered (fields : List (String × Selector))
    (remaining : Option Selector) (p : Predicate) {node : Node}
    (h : (FieldSelector.mk fields remaining (some p)).node r = .ok node)
    (hbesides : node.fields ≠ [] ∨ remaining.isSome) :
    ∃ test only plain, p.compile r = .ok test ∧
      (FieldSelector.mk [] none (some p)).node r = .ok only ∧
      (FieldSelector.mk fields remaining none).node r = .ok plain ∧
      (node.strategy.source = .name → ∀ v, node.apply v = (only.apply v).bind plain.apply) ∧
      (node.strategy.source = .position →
        ∀ v, node.apply v = if test (some v) then plain.apply v else none) := by
  obtain ⟨entries, notices, copied, copiedNotices, test?, hentries, hcopied, htest?, rfl⟩ :=
    node_eq_ok.1 h
  obtain ⟨test, htest, rfl⟩ := compileFilter_some_eq_ok htest?
  have hsaid : (Node.plan entries copied (some test)).fields ≠ [] ∨ copied ≠ .unspecified := by
    refine hbesides.imp_right ?_
    rintro hsome rfl
    obtain ⟨s, rfl⟩ := Option.isSome_iff_exists.1 hsome
    exact compileRemaining_ne_unspecified hcopied
  have hplain := Node.withoutFilter_plan hsaid
  refine ⟨test, Node.filterOnly test, Node.plan entries copied none, htest, ?_, ?_, ?_, ?_⟩
  · exact node_eq_ok.2 ⟨[], [], .unspecified, [], some test, by rw [compileEntries],
      by rw [compileRemaining], htest?, rfl⟩
  · exact node_eq_ok.2 ⟨entries, notices, copied, copiedNotices, none, hentries, hcopied, rfl, rfl⟩
  · intro hnames v
    rw [← hplain]
    exact Node.apply_of_filter rfl hnames v
  · intro hpositions v
    rw [← hplain]
    exact Node.apply_of_filter_of_position rfl hpositions v

/-- Of the animals heavier than two the weights are summed for each name, of an inner list apart. -/
theorem FieldSelector.heavy_animals :
    let fields := [("name", Selector.copy), ("weight", .named "sum")]
    let p := Predicate.all [("weight", .all [(">", .equals (.int 2))])]
    let animal (name : String) (weight : Int64) :=
      Value.object [("name", .string name), ("weight", .int weight)]
    let items := Value.array [animal "dog" 10, animal "cat" 1,
      .array [animal "cat" 2, animal "dog" 3], animal "cat" 5, animal "dog" 2, animal "dog" 20,
      .string "dog", .array [animal "cat" 1]]
    ∃ node, (FieldSelector.mk fields none (some p)).node .standard = .ok node ∧
      (∃ test only plain, p.compile .standard = .ok test ∧
        (FieldSelector.mk [] none (some p)).node .standard = .ok only ∧
        (FieldSelector.mk fields none none).node .standard = .ok plain ∧
        node.apply items = (only.apply items).bind plain.apply) ∧
      node.apply items = some (.array [animal "dog" 30, animal "cat" 5,
        .array [animal "dog" 3], .array []]) := by
  intro fields p animal items
  let heavy : Test := fun v => (v.bind (Value.compare? · (.int 2))).any Comparison.greater.accepts
  let test : Test := fun v => [Test.ofPart (fun v => [heavy].all (· v)) "weight"].all (· v)
  let node : Node :=
    ⟨⟨.name, .name⟩, [⟨.name "name", .name "name", id, none, none⟩,
      ⟨.name "weight", .name "weight", id, some (.fold (.sum .standard)), none⟩], [], none,
      some test, false⟩
  have htest : p.compile .standard = .ok test := by
    have hweight : Resolver.standard.operator? "weight" = none := rfl
    have hgreater : Resolver.standard.operator? ">" = some (.comparison .greater) := rfl
    simp [p, test, heavy, Predicate.compile, Predicate.compileEntries, hweight, hgreater, located,
      Comparison.compile, literalOperand, bind, Except.bind, pure, Except.pure, Except.map]
  have hnode : (FieldSelector.mk fields none (some p)).node .standard = .ok node := by
    have hname : Resolver.standard.key "name" = .name "name" := by decide
    have hweight : Resolver.standard.key "weight" = .name "weight" := by decide
    have hsum : Resolver.standard.aggregation? "sum" = some (.fold (.sum .standard)) := rfl
    simp [fields, node, FieldSelector.node, compileEntries, compileRemaining, compileFilter, htest,
      Selector.compile, hname, hweight, hsum, located, checkDestination, Compiled.toEntry,
      Compiled.reading, bind, Except.bind, pure, Except.pure, Node.plan, Strategy.choose, Kept.of,
      Key.kind]
  obtain ⟨test, only, plain, htest, honly, hplain, hfused, -⟩ :=
    FieldSelector.apply_filtered fields none p hnode (.inl (List.cons_ne_nil _ _))
  exact ⟨node, hnode, ⟨test, only, plain, htest, honly, hplain, hfused rfl items⟩,
    by decide +kernel⟩

end Reshape
