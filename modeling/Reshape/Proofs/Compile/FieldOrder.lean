import Reshape.Proofs.Compile.Basic
import Reshape.Proofs.Node.FieldOrder
import Reshape.Proofs.Query.Parser
import Reshape.Vocabulary.Standard

/-!
# The written order of an object selector's keys

An object selector whose keys are written in another order compiles to the same entries in that
order (`compileEntries_perm`), the two reserved keys standing wherever they like. The first entry
fixes the strategy, and an entry that does not match it or comes second at its destination is
ignored, so the order matters for which fields a node has. When both orders give one strategy and
no entry is ignored, it matters for nothing but the order of the entries that the node writes.
-/

namespace Reshape

variable {r : Resolver}

/-! ## Parsing -/

namespace FieldSelector

/-- Whether two field selectors hold the same fields in some order, and say the same besides. -/
structure Permutes (f g : FieldSelector) : Prop where
  fields : f.fields.Perm g.fields
  remaining : f.remaining = g.remaining
  filter : f.filter = g.filter

theorem Permutes.addPart {f g : FieldSelector} (h : f.Permutes g) (part : WrittenPart) :
    (f.addPart part).Permutes (g.addPart part) := by
  cases part with
  | field key s => exact ⟨h.fields.cons _, h.remaining, h.filter⟩
  | remaining s => exact ⟨h.fields, rfl, h.filter⟩
  | filter p => exact ⟨h.fields, h.remaining, rfl⟩

/-- Two parts under different keys can be added in either order. -/
theorem permutes_addPart_comm (f : FieldSelector) {a b : WrittenPart} (h : a.key ≠ b.key) :
    ((f.addPart a).addPart b).Permutes ((f.addPart b).addPart a) := by
  cases a with
  | field key s =>
    cases b with
    | field key' s' => exact ⟨.swap _ _ _, rfl, rfl⟩
    | remaining s' => exact ⟨.refl _, rfl, rfl⟩
    | filter p' => exact ⟨.refl _, rfl, rfl⟩
  | remaining s =>
    cases b with
    | remaining s' => exact absurd rfl h
    | field key' s' => exact ⟨.refl _, rfl, rfl⟩
    | filter p' => exact ⟨.refl _, rfl, rfl⟩
  | filter p =>
    cases b with
    | filter p' => exact absurd rfl h
    | field key' s' => exact ⟨.refl _, rfl, rfl⟩
    | remaining s' => exact ⟨.refl _, rfl, rfl⟩

/-- Written keys in another order parse to the same fields in another order. -/
theorem parse_perm {written written' : List (String × Value)} (h : written.Perm written')
    (hkeys : (written.map (·.1)).Nodup) {f : FieldSelector} (hf : parse written = .ok f) :
    ∃ g, parse written' = .ok g ∧ f.Permutes g := by
  induction h generalizing f with
  | nil => exact ⟨f, hf, .refl _, rfl, rfl⟩
  | cons p h ih =>
    obtain ⟨part, hpart, g, hg, rfl⟩ := parse_cons_eq_ok.1 hf
    obtain ⟨g', hg', hperm⟩ := ih (List.nodup_cons.1 hkeys).2 hg
    exact ⟨_, parse_cons_eq_ok.2 ⟨part, hpart, g', hg', rfl⟩, hperm.addPart part⟩
  | swap p q written =>
    obtain ⟨a, ha, _, hrest, rfl⟩ := parse_cons_eq_ok.1 hf
    obtain ⟨b, hb, g, hg, rfl⟩ := parse_cons_eq_ok.1 hrest
    have hne : b.key ≠ a.key := by
      rw [WrittenPart.key_of_parse ha, WrittenPart.key_of_parse hb]
      intro heq
      exact (List.nodup_cons.1 hkeys).1 (List.mem_cons.2 (.inl heq.symm))
    refine ⟨_, parse_cons_eq_ok.2 ⟨b, hb, _, parse_cons_eq_ok.2 ⟨a, ha, g, hg, rfl⟩, rfl⟩, ?_⟩
    exact g.permutes_addPart_comm hne
  | trans h₁ h₂ ih₁ ih₂ =>
    obtain ⟨g, hg, hfg⟩ := ih₁ hkeys hf
    obtain ⟨g', hg', hgg'⟩ := ih₂ ((h₁.map _).nodup_iff.1 hkeys) hg
    exact ⟨g', hg', hfg.fields.trans hgg'.fields, hfg.remaining.trans hgg'.remaining,
      hfg.filter.trans hgg'.filter⟩

end FieldSelector

/-! ## Planning -/

/-- No entry is ignored when all match and no two have one destination. -/
theorem Kept.of_eq_filterMap {strategy : Strategy} {written : List Key} {entries : List Entry}
    (hmatch : ∀ e ∈ entries, e.Matches strategy) (hdests : (entries.map Entry.dest).Nodup)
    (hfree : ∀ e ∈ entries, e.dest ∉ written) :
    (Kept.of strategy written entries).fields = entries.filterMap Entry.field? ∧
      (Kept.of strategy written entries).excluded = entries.filterMap Entry.excluded? := by
  have hkept := Kept.of_eq_keptFrom strategy written entries
  rwa [keptFrom_eq_self hmatch hdests hfree] at hkept

/-- Entries in another order are planned to a node with its fields in another order, if the strategy
is the same and none is ignored. -/
theorem Node.plan_permutes {entries entries' : List Entry} (h : entries.Perm entries')
    (hstrategy : Strategy.choose entries = Strategy.choose entries')
    (hmatch : ∀ e ∈ entries, e.Matches (Strategy.choose entries))
    (hdests : (entries.map Entry.dest).Nodup) (remaining : Remaining) (filter : Option Test) :
    (Node.plan entries remaining filter).Permutes (Node.plan entries' remaining filter) := by
  have hmatch' : ∀ e ∈ entries', e.Matches (Strategy.choose entries') :=
    fun e he => hstrategy ▸ hmatch e (h.mem_iff.2 he)
  have hdests' : (entries'.map Entry.dest).Nodup := (h.map _).nodup_iff.1 hdests
  obtain ⟨hfields, hexcluded⟩ := Kept.of_eq_filterMap hmatch hdests fun _ _ => List.not_mem_nil
  obtain ⟨hfields', hexcluded'⟩ := Kept.of_eq_filterMap hmatch' hdests' fun _ _ => List.not_mem_nil
  have hperm : (Node.plan entries remaining filter).fields.Perm
      (Node.plan entries' remaining filter).fields := by
    show (Kept.of _ _ _).fields.Perm (Kept.of _ _ _).fields
    rw [hfields, hfields']
    exact h.filterMap _
  have hempty : (Kept.of (Strategy.choose entries) [] entries).fields.isEmpty =
      (Kept.of (Strategy.choose entries') [] entries').fields.isEmpty := hperm.isEmpty_eq
  constructor
  case strategy => exact hstrategy
  case fields => exact hperm
  case excluded =>
    show (Kept.of _ _ _).excluded.Perm (Kept.of _ _ _).excluded
    rw [hexcluded, hexcluded']
    exact h.filterMap _
  case remaining => simp only [Node.plan, hempty]
  case filter => rfl
  case passthrough => simp only [Node.plan, hempty]

/-! ## Compiling -/

/-- Fields in another order compile to the same entries in that order. -/
theorem compileEntries_perm {fields fields' : List (String × Selector)} (h : fields.Perm fields')
    {entries : List Entry} {notices : List Notice}
    (hentries : compileEntries r fields = .ok (entries, notices)) :
    ∃ entries' notices', compileEntries r fields' = .ok (entries', notices') ∧
      entries.Perm entries' := by
  induction h generalizing entries notices with
  | nil => exact ⟨entries, notices, hentries, .refl _⟩
  | cons p h ih =>
    obtain ⟨hcheck, c, rest, restNotices, hc, hrest, rfl, rfl⟩ :=
      compileEntries_cons_eq_ok.1 hentries
    obtain ⟨rest', restNotices', hrest', hperm⟩ := ih hrest
    exact ⟨_, _, compileEntries_cons_eq_ok.2 ⟨hcheck, c, rest', _, hc, hrest', rfl, rfl⟩,
      hperm.cons _⟩
  | swap p q fields =>
    obtain ⟨hcheck, c, _, _, hc, htail, rfl, rfl⟩ := compileEntries_cons_eq_ok.1 hentries
    obtain ⟨hcheck', c', rest, _, hc', hrest, rfl, rfl⟩ := compileEntries_cons_eq_ok.1 htail
    have hswapped := compileEntries_cons_eq_ok.2 ⟨hcheck', c', _, _, hc',
      compileEntries_cons_eq_ok.2 ⟨hcheck, c, rest, _, hc, hrest, rfl, rfl⟩, rfl, rfl⟩
    exact ⟨_, _, hswapped, .swap _ _ _⟩
  | trans _ _ ih₁ ih₂ =>
    obtain ⟨entries₁, notices₁, h₁, hperm₁⟩ := ih₁ hentries
    obtain ⟨entries₂, notices₂, h₂, hperm₂⟩ := ih₂ h₁
    exact ⟨entries₂, notices₂, h₂, hperm₁.trans hperm₂⟩

/-- An object selector compiles in every order of its keys. If that order gives the node the same
strategy and the first order makes it ignore no entry, what the node makes of a value is the same,
up to the order of the entries of the objects that it writes. -/
theorem FieldSelector.apply_perm {written written' : List (String × Value)}
    (hwritten : written.Perm written') (hkeys : (written.map (·.1)).Nodup) {f : FieldSelector}
    (hparse : FieldSelector.parse written = .ok f) {node : Node} (hnode : f.node r = .ok node)
    {entries : List Entry} {notices : List Notice}
    (hentries : compileEntries r f.fields = .ok (entries, notices))
    (hmatch : ∀ e ∈ entries, e.Matches node.strategy) (hdests : (entries.map Entry.dest).Nodup)
    (hsort : Reading.DistinctPriorities node.fields) :
    ∃ node', (FieldSelector.parse written' >>= FieldSelector.node r) = .ok node' ∧
      (node'.strategy = node.strategy → ∀ v,
        (node.strategy.dest = .position → node'.apply v = node.apply v) ∧
        (node.strategy.dest = .name →
          Option.Rel Value.UpToEntryOrder (node.apply v) (node'.apply v))) := by
  obtain ⟨g, hg, hperm⟩ := FieldSelector.parse_perm hwritten hkeys hparse
  obtain ⟨fields, remaining, filter⟩ := f
  obtain ⟨fields', remaining', filter'⟩ := g
  obtain ⟨hfields, rfl, rfl⟩ := hperm
  obtain ⟨_, _, copied, copiedNotices, test, hcompiled, hcopied, htest, rfl⟩ :=
    FieldSelector.node_eq_ok.1 hnode
  obtain ⟨rfl, rfl⟩ := Prod.mk.inj (Except.ok.inj (hcompiled.symm.trans hentries))
  obtain ⟨entries', notices', hentries', hperm⟩ := compileEntries_perm hfields hentries
  refine ⟨Node.plan entries' copied test, bind_eq_ok.2 ⟨_, hg, node_eq_ok.2
    ⟨entries', notices', copied, copiedNotices, test, hentries', hcopied, htest, rfl⟩⟩, ?_⟩
  intro hstrategy v
  have hpermutes := Node.plan_permutes hperm hstrategy.symm hmatch hdests copied test
  constructor
  · intro hdest
    exact (hpermutes.apply_of_dest_position hsort (Node.planned_plan _ _ _).nodup hdest v).symm
  · intro hdest
    exact hpermutes.apply_of_dest_name hsort hdest v

/-- The weights of heavy animals are summed by kind and name, in the order of the kinds and of the
names from the last on, with the keys of the selector in one order and in another. -/
theorem FieldSelector.weights_in_any_order :
    let heavy := Value.object [("weight", .object [(">", .int 1)])]
    let written := [("weight", .string "sum"), ("kind", .int 1), ("name", .int (-2)),
      ("*", .bool true), ("?", heavy)]
    let written' := [("?", heavy), ("name", .int (-2)), ("*", .bool true), ("kind", .int 1),
      ("weight", .string "sum")]
    let animal (kind name : String) (weight : Int64) (age : List (String × Value)) :=
      Value.object ([("name", .string name), ("weight", .int weight)] ++ age ++
        [("kind", .string kind)])
    let output (kind name : String) (weight : Int64) (age : List (String × Value)) :=
      Value.object
        ([("weight", .int weight), ("kind", .string kind), ("name", .string name)] ++ age)
    let old := [("age", Value.int 9)]
    let items := Value.array [animal "dog" "a" 10 [], animal "dog" "b" 2 [], animal "dog" "a" 4 old,
      animal "cat" "a" 1 [], .array [animal "dog" "a" 6 []], animal "dog" "a" 7 [],
      animal "cat" "a" 3 []]
    written.Perm written' ∧ (written.map (·.1)).Nodup ∧ ∃ node node',
      (FieldSelector.parse written >>= FieldSelector.node .standard) = .ok node ∧
      (FieldSelector.parse written' >>= FieldSelector.node .standard) = .ok node' ∧
      node.strategy.dest = .name ∧
      Option.Rel Value.UpToEntryOrder (node.apply items) (node'.apply items) ∧
      node.apply items = some (.array [output "cat" "a" 3 [], output "dog" "b" 2 [],
        output "dog" "a" 17 [], output "dog" "a" 4 old, .array [output "dog" "a" 6 []]]) := by
  intro heavy written written' animal output old items
  have hperm : written.Perm written' := by decide
  have hkeys : (written.map (·.1)).Nodup := by decide
  let above : Test := fun v => (v.bind (Value.compare? · (.int 1))).any Comparison.greater.accepts
  let test : Test := fun v => [Test.ofPart (fun v => [above].all (· v)) "weight"].all (· v)
  let weight : Field := ⟨.name "weight", .name "weight", id, some (.fold (.sum .standard)), none⟩
  let kind : Field := ⟨.name "kind", .name "kind", id, none, some 1⟩
  let name : Field := ⟨.name "name", .name "name", id, none, some (-2)⟩
  let p := Predicate.all [("weight", .all [(">", .equals (.int 1))])]
  let f := FieldSelector.mk [("weight", .named "sum"), ("kind", .sort 1), ("name", .sort (-2))]
    (some .copy) (some p)
  have hp : Predicate.parse heavy = .ok p := by
    simp [heavy, p, Predicate.parse, Predicate.parseEntries, located, bind, Except.bind, pure,
      Except.pure, Functor.map, Except.map]
  have hparse : FieldSelector.parse written = .ok f := by
    simp [written, f, FieldSelector.parse, Selector.parse, hp, selectAllKey, filterKey, located,
      FieldSelector.fields, FieldSelector.remaining, FieldSelector.filter, bind, Except.bind, pure,
      Except.pure]
  have hparse' : FieldSelector.parse written' =
      .ok (.mk [("name", .sort (-2)), ("kind", .sort 1), ("weight", .named "sum")] (some .copy)
        (some p)) := by
    simp [written', FieldSelector.parse, Selector.parse, hp, selectAllKey, filterKey, located,
      FieldSelector.fields, FieldSelector.remaining, FieldSelector.filter, bind, Except.bind, pure,
      Except.pure]
  have htest : compileFilter .standard (some p) = .ok (some test) := by
    have hweight : Resolver.standard.operator? "weight" = none := rfl
    have hgreater : Resolver.standard.operator? ">" = some (.comparison .greater) := rfl
    simp [compileFilter, p, test, above, Predicate.compile, Predicate.compileEntries, hweight,
      hgreater, located, Comparison.compile, literalOperand, bind, Except.bind, pure, Except.pure,
      Functor.map, Except.map]
  have hcopied : compileRemaining .standard (some .copy) = .ok (.copied id, []) := by
    simp [compileRemaining, Selector.compile, located, Compiled.toRemaining,
      Compiled.withoutDirectives, Compiled.reading, bind, Except.bind, pure, Except.pure]
  have hweight : Resolver.standard.key "weight" = .name "weight" := by decide
  have hkind : Resolver.standard.key "kind" = .name "kind" := by decide
  have hname : Resolver.standard.key "name" = .name "name" := by decide
  have hsum : Resolver.standard.aggregation? "sum" = some (.fold (.sum .standard)) := rfl
  have hentries : compileEntries .standard f.fields =
      .ok ([.field weight, .field kind, .field name], []) := by
    simp [f, weight, kind, name, FieldSelector.fields, compileEntries, Selector.compile, hweight,
      hkind, hname, hsum, located, checkDestination, Compiled.toEntry, Compiled.reading, bind,
      Except.bind, pure, Except.pure]
  have hentries' : compileEntries .standard
      [("name", .sort (-2)), ("kind", .sort 1), ("weight", .named "sum")] =
      .ok ([.field name, .field kind, .field weight], []) := by
    simp [weight, kind, name, compileEntries, Selector.compile, hweight, hkind, hname, hsum,
      located, checkDestination, Compiled.toEntry, Compiled.reading, bind, Except.bind, pure,
      Except.pure]
  have hnode : f.node .standard =
      .ok (Node.plan [.field weight, .field kind, .field name] (.copied id) (some test)) :=
    node_eq_ok.2 ⟨_, _, _, _, _, hentries, hcopied, htest, rfl⟩
  have hnode' : (FieldSelector.parse written' >>= FieldSelector.node .standard) =
      .ok (Node.plan [.field name, .field kind, .field weight] (.copied id) (some test)) :=
    bind_eq_ok.2 ⟨_, hparse', node_eq_ok.2 ⟨_, _, _, _, _, hentries', hcopied, htest, rfl⟩⟩
  obtain ⟨node', hcompiled, hall⟩ := apply_perm hperm hkeys hparse hnode hentries
    (by simp [Entry.Matches, Node.plan, Strategy.choose, weight, kind, name, Key.kind])
    (by decide) (by decide)
  cases hnode'.symm.trans hcompiled
  exact ⟨hperm, hkeys, _, _, bind_eq_ok.2 ⟨f, hparse, hnode⟩, hnode', rfl,
    (hall rfl items).2 rfl, by decide +kernel⟩

end Reshape
