import Reshape.Proofs.Compile.SortDirectives
import Reshape.Proofs.Node.Sorted
import Reshape.Value.Identity
import Reshape.Vocabulary.Standard

/-!
# Sorting of object selectors

What a sorted object selector means in terms of another one: the object selector that is left when
the sort directives of its fields are taken off as they are written. That one gives outputs in the
order of their records, and the sorted one gives the same outputs in the order of the directives.
-/

namespace Reshape

variable {r : Resolver}

/-- The fields of a written object selector without their sort directives. The two reserved keys
hold no field of it. -/
def fieldsWithoutSort (r : Resolver) (fields : List (String × Value)) : List (String × Value) :=
  fields.map fun (key, v) =>
    (key, if key = selectAllKey ∨ key = filterKey then v else v.withoutSort r)

theorem fieldsWithoutSort_cons (key : String) (v : Value) (fields : List (String × Value)) :
    fieldsWithoutSort r ((key, v) :: fields) =
      (key, if key = selectAllKey ∨ key = filterKey then v else v.withoutSort r) ::
        fieldsWithoutSort r fields := rfl

theorem Compiled.toEntry_withoutSort (c : Compiled) (dest : Key) :
    c.withoutSort.toEntry dest = (c.toEntry dest).mapField Field.withoutSort := by
  unfold toEntry
  cases hsource : c.source <;> simp [withoutSort, hsource, Entry.mapField, Field.withoutSort]

/-- Whether the second fields compile to what the first do, but for the sort directives. -/
def FieldsLoseSort (r : Resolver) (fields fields' : List (String × Selector)) : Prop :=
  ∀ entries notices, compileEntries r fields = .ok (entries, notices) →
    compileEntries r fields' = .ok (entries.map (Entry.mapField Field.withoutSort), notices)

theorem FieldsLoseSort.cons {raw : String} {s s' : Selector}
    {fields fields' : List (String × Selector)} (hs : s.LosesSort r s')
    (hfields : FieldsLoseSort r fields fields') :
    FieldsLoseSort r ((raw, s) :: fields) ((raw, s') :: fields') := by
  intro entries notices h
  obtain ⟨hcheck, c, rest, restNotices, hc, hrest, rfl, rfl⟩ := compileEntries_cons_eq_ok.1 h
  refine compileEntries_cons_eq_ok.2
    ⟨hcheck, _, _, restNotices, hs c hc, hfields _ _ hrest, ?_, rfl⟩
  rw [c.toEntry_withoutSort, List.map_cons]

/-- A written object selector that parses also does without its sort directives. -/
theorem FieldSelector.parse_withoutSort {written : List (String × Value)} {f : FieldSelector}
    (h : FieldSelector.parse written = .ok f) :
    ∃ fields, FieldSelector.parse (fieldsWithoutSort r written) =
        .ok (.mk fields f.remaining f.filter) ∧
      FieldsLoseSort r f.fields fields := by
  induction written generalizing f with
  | nil =>
    rw [FieldSelector.parse] at h
    cases h
    refine ⟨[], by rw [fieldsWithoutSort, List.map_nil, FieldSelector.parse]; rfl, ?_⟩
    intro entries notices hentries
    rw [FieldSelector.fields, compileEntries] at hentries
    cases hentries
    rw [compileEntries]
    rfl
  | cons field written ih =>
    obtain ⟨key, v⟩ := field
    rw [FieldSelector.parse] at h
    rw [fieldsWithoutSort_cons]
    split at h
    case isTrue hall =>
      obtain ⟨all, hv, h⟩ := bind_eq_ok.1 h
      obtain ⟨g, hg, h⟩ := bind_eq_ok.1 h
      cases h
      obtain ⟨fields, hfields, hlose⟩ := ih hg
      refine ⟨fields, ?_, hlose⟩
      rw [if_pos (.inl hall), FieldSelector.parse, if_pos hall, hv, hfields]
      rfl
    case isFalse hall =>
      split at h
      case isTrue hfilter =>
        obtain ⟨filter, hv, h⟩ := bind_eq_ok.1 h
        obtain ⟨g, hg, h⟩ := bind_eq_ok.1 h
        cases h
        obtain ⟨fields, hfields, hlose⟩ := ih hg
        refine ⟨fields, ?_, hlose⟩
        rw [if_pos (.inr hfilter), FieldSelector.parse, if_neg hall, if_pos hfilter, hv, hfields]
        rfl
      case isFalse hfilter =>
        obtain ⟨s, hv, h⟩ := bind_eq_ok.1 h
        obtain ⟨g, hg, h⟩ := bind_eq_ok.1 h
        cases h
        obtain ⟨s', hv', hs⟩ := Selector.parse_withoutSort (r := r) v (located_eq_ok.1 hv)
        obtain ⟨fields, hfields, hlose⟩ := ih hg
        refine ⟨(key, s') :: fields, ?_, hlose.cons hs⟩
        rw [if_neg (not_or.2 ⟨hall, hfilter⟩), FieldSelector.parse, if_neg hall, if_neg hfilter,
          hv', hfields]
        rfl

/-- What is left of a written object selector without the sort directives of its fields becomes the
node that is left without them. -/
theorem FieldSelector.node_withoutSort {written : List (String × Value)} {node : Node}
    (h : (FieldSelector.parse written >>= FieldSelector.node r) = .ok node) :
    (FieldSelector.parse (fieldsWithoutSort r written) >>= FieldSelector.node r) =
      .ok node.withoutSort := by
  obtain ⟨⟨fields, remaining, filter⟩, hparse, h⟩ := bind_eq_ok.1 h
  obtain ⟨entries, notices, copied, copiedNotices, test, hentries, hcopied, htest, rfl⟩ :=
    node_eq_ok.1 h
  obtain ⟨fields', hparse', hlose⟩ := FieldSelector.parse_withoutSort (r := r) hparse
  refine bind_eq_ok.2 ⟨_, hparse', node_eq_ok.2 ?_⟩
  exact ⟨_, notices, copied, copiedNotices, test, hlose entries notices hentries, hcopied, htest,
    Node.plan_mapField directivesOnly_withoutSort entries copied test⟩

/-- An object selector that reads names, sorts and does not group makes of a list the outputs that
it gives without its sort directives, with the records of the list ranked by the directives, and
behind them what it makes of the lists inside the list. -/
theorem FieldSelector.apply_sorted (written : List (String × Value)) {node : Node}
    (h : (FieldSelector.parse written >>= FieldSelector.node r) = .ok node)
    (hnames : node.strategy.source = .name) (hsort : ∃ field ∈ node.fields, field.sort.isSome)
    (hgroup : node.isGrouped = false) :
    ∃ plain, (FieldSelector.parse (fieldsWithoutSort r written) >>= FieldSelector.node r) =
        .ok plain ∧
      ∀ items : List Value,
        let records := items.filter fun v => !v.isArray && (plain.apply v).isSome
        (∀ v ∈ records, ∀ field ∈ node.fields, field.sort.isSome →
          ∀ x, field.get v ≠ some (.float x)) →
        ∃ ranked, node.RankedBy records ranked ∧
          node.apply (.array items) = some (.array (ranked.filterMap plain.apply ++
            (items.filter Value.isArray).filterMap node.apply)) := by
  obtain ⟨f, -, hnode⟩ := bind_eq_ok.1 h
  refine ⟨node.withoutSort, node_withoutSort h, fun items => ?_⟩
  exact Node.apply_array_of_sorts (planned_of_node hnode) hnames hsort hgroup items

/-- Animals by name, those of one name from the heaviest on, whatever the size of the priority; two
that weigh the same stay in order, and an inner list is sorted on its own. -/
theorem FieldSelector.sorted_animals :
    let written := [("weight", .int Int64.minValue), ("name", .int 2), ("id", .bool true)]
    let animal (name : String) (weight id : Int64) :=
      Value.object [("id", .int id), ("name", .string name), ("weight", .int weight)]
    let output (name : String) (weight id : Int64) :=
      Value.object [("weight", .int weight), ("name", .string name), ("id", .int id)]
    let items := [animal "dog" 10 1, animal "cat" 5 2, .array [animal "cat" 1 3, animal "cat" 2 4],
      .object [("name", .string "ant")], animal "cat" 5 5, animal "cat" 6 6]
    ∃ node, (FieldSelector.parse written >>= FieldSelector.node .standard) = .ok node ∧
      (∃ plain, (FieldSelector.parse (fieldsWithoutSort .standard written) >>=
          FieldSelector.node .standard) = .ok plain ∧
        ∃ ranked,
          node.RankedBy (items.filter fun v => !v.isArray && (plain.apply v).isSome) ranked ∧
          node.apply (.array items) = some (.array (ranked.filterMap plain.apply ++
            (items.filter Value.isArray).filterMap node.apply))) ∧
      node.apply (.array items) = some (.array [output "cat" 6 6, output "cat" 5 2,
        output "cat" 5 5, output "dog" 10 1, .array [output "cat" 2 4, output "cat" 1 3]]) := by
  intro written animal output items
  let node : Node :=
    ⟨⟨.name, .name⟩, [⟨.name "weight", .name "weight", id, none, some Int64.minValue⟩,
      ⟨.name "name", .name "name", id, none, some 2⟩, ⟨.name "id", .name "id", id, none, none⟩],
      [], none, none, false⟩
  have hparse : FieldSelector.parse written = .ok (.mk [("weight", .sort Int64.minValue),
      ("name", .sort 2), ("id", .copy)] none none) := by
    have hmin : Int64.minValue ≠ 0 := by decide
    simp [written, FieldSelector.parse, Selector.parse, hmin, selectAllKey, filterKey, located,
      FieldSelector.fields, FieldSelector.remaining, FieldSelector.filter, bind, Except.bind, pure,
      Except.pure]
  have hnode : (FieldSelector.parse written >>= FieldSelector.node .standard) = .ok node := by
    have hweight : Resolver.standard.key "weight" = .name "weight" := by decide
    have hname : Resolver.standard.key "name" = .name "name" := by decide
    have hid : Resolver.standard.key "id" = .name "id" := by decide
    rw [hparse]
    simp [node, FieldSelector.node, compileEntries, compileRemaining, compileFilter,
      Selector.compile, hweight, hname, hid, located, checkDestination, Compiled.toEntry,
      Compiled.reading, bind, Except.bind, pure, Except.pure, Node.plan, Strategy.choose, Kept.of,
      Key.kind]
  obtain ⟨plain, hplain, hall⟩ := FieldSelector.apply_sorted written hnode rfl (by decide) rfl
  refine ⟨node, hnode, ⟨plain, hplain, hall items ?_⟩, by decide +kernel⟩
  have hvalues : ∀ v ∈ items, ∀ field ∈ node.fields, field.sort.isSome →
      (field.get v).all fun value => value.kindName != "float" := by
    decide +kernel
  intro v hv field hfield hsort x hx
  have hvalue := hvalues v (List.mem_of_mem_filter hv) field hfield hsort
  simp [hx, Value.kindName] at hvalue

end Reshape
