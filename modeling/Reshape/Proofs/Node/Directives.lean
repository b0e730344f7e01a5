import Reshape.Proofs.Node.Basic
import Reshape.Node.Plan

/-!
# Nodes that differ in directives only

Directives of a field say what happens to the records of a list together. They have no part in what
the field reads and where it writes, nor in which fields a node keeps. So a change of directives
(`DirectivesOnly`) can be made on the fields of a node as well as on the entries it is planned from,
and it leaves the rows of single records as they are.
-/

namespace Reshape

/-- A change of a field that concerns nothing but its directives. -/
structure DirectivesOnly (g : Field → Field) : Prop where
  dest : ∀ f, (g f).dest = f.dest
  source : ∀ f, (g f).source = f.source
  mapper : ∀ f, (g f).mapper = f.mapper

/-- The entry with its field changed. -/
def Entry.mapField (g : Field → Field) : Entry → Entry
  | .field f => .field (g f)
  | .exclusion dest => .exclusion dest

/-- The node with every field changed. -/
def Node.mapFields (g : Field → Field) (node : Node) : Node :=
  { node with fields := node.fields.map g }

section Changed

variable {g : Field → Field}

theorem Strategy.choose_mapField (h : DirectivesOnly g) (entries : List Entry) :
    choose (entries.map (Entry.mapField g)) = choose entries := by
  cases entries with
  | nil => rfl
  | cons entry entries =>
    cases entry with
    | field f => simp only [List.map_cons, Entry.mapField, choose, h.source, h.dest]
    | exclusion dest => rfl

theorem Kept.of_mapField (h : DirectivesOnly g) (strategy : Strategy) (written : List Key)
    (entries : List Entry) :
    Kept.of strategy written (entries.map (Entry.mapField g)) =
      { Kept.of strategy written entries with
        fields := (Kept.of strategy written entries).fields.map g } := by
  induction entries generalizing written with
  | nil => rfl
  | cons entry entries ih =>
    cases entry with
    | field f =>
      rw [List.map_cons, Entry.mapField, Kept.of, Kept.of]
      simp only [h.source, h.dest, ih]
      split
      · rfl
      · split <;> rfl
    | exclusion dest =>
      rw [List.map_cons, Entry.mapField, Kept.of, Kept.of]
      simp only [ih]
      split
      · rfl
      · split <;> rfl

/-- Planning changed entries gives the changed node. -/
theorem Node.plan_mapField (h : DirectivesOnly g) (entries : List Entry) (remaining : Remaining)
    (filter : Option Test) :
    Node.plan (entries.map (Entry.mapField g)) remaining filter =
      (Node.plan entries remaining filter).mapFields g := by
  simp only [Node.plan, Strategy.choose_mapField h, Kept.of_mapField h, Node.mapFields,
    List.isEmpty_map]

theorem Node.extract_mapFields (h : DirectivesOnly g) (node : Node) :
    (node.mapFields g).extract = node.extract := by
  funext input
  simp [extract, mapFields, broadcast, leftovers, claims, dests, Function.comp_def, h.dest,
    h.source, h.mapper]

theorem Node.write_mapFields (h : DirectivesOnly g) (node : Node) :
    (node.mapFields g).write = node.write := by
  funext row
  simp [write, mapFields, dests, Function.comp_def, h.dest]

end Changed

/-! ## No aggregation -/

/-- A field without its aggregation directive. -/
def Field.withoutAggregation (f : Field) : Field := { f with aggregation := none }

/-- An entry without its aggregation directive. -/
def Entry.withoutAggregation : Entry → Entry
  | .field f => .field f.withoutAggregation
  | .exclusion dest => .exclusion dest

/-- A node that does the same and aggregates nothing. -/
def Node.withoutAggregation (node : Node) : Node :=
  { node with fields := node.fields.map Field.withoutAggregation }

theorem directivesOnly_withoutAggregation : DirectivesOnly Field.withoutAggregation :=
  ⟨fun _ => rfl, fun _ => rfl, fun _ => rfl⟩

theorem Entry.withoutAggregation_eq : withoutAggregation = mapField Field.withoutAggregation := by
  funext entry
  cases entry <;> rfl

theorem Node.plan_withoutAggregation (entries : List Entry) (remaining : Remaining)
    (filter : Option Test) :
    Node.plan (entries.map Entry.withoutAggregation) remaining filter =
      (Node.plan entries remaining filter).withoutAggregation := by
  rw [Entry.withoutAggregation_eq]
  exact plan_mapField directivesOnly_withoutAggregation entries remaining filter

theorem Node.extract_withoutAggregation (node : Node) :
    node.withoutAggregation.extract = node.extract :=
  extract_mapFields directivesOnly_withoutAggregation node

theorem Node.write_withoutAggregation (node : Node) : node.withoutAggregation.write = node.write :=
  write_mapFields directivesOnly_withoutAggregation node

theorem Node.isGrouped_withoutAggregation (node : Node) :
    node.withoutAggregation.isGrouped = false := by
  simp [isGrouped, withoutAggregation, Field.withoutAggregation]

/-! ## No sorting -/

/-- A field without its sort directive. -/
def Field.withoutSort (f : Field) : Field := { f with sort := none }

/-- A node that does the same and sorts nothing. -/
def Node.withoutSort (node : Node) : Node := node.mapFields Field.withoutSort

theorem directivesOnly_withoutSort : DirectivesOnly Field.withoutSort :=
  ⟨fun _ => rfl, fun _ => rfl, fun _ => rfl⟩

theorem Node.extract_withoutSort (node : Node) : node.withoutSort.extract = node.extract :=
  extract_mapFields directivesOnly_withoutSort node

theorem Node.write_withoutSort (node : Node) : node.withoutSort.write = node.write :=
  write_mapFields directivesOnly_withoutSort node

theorem Node.isGrouped_withoutSort (node : Node) :
    node.withoutSort.isGrouped = node.isGrouped := by
  simp [isGrouped, withoutSort, mapFields, Field.withoutSort, Function.comp_def]

end Reshape
