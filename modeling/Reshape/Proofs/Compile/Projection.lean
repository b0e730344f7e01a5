import Reshape.Proofs.Compile.Basic
import Reshape.Proofs.Node.Projection
import Reshape.Vocabulary.Standard

/-!
# Object selectors that project

An object selector under names that copies each of its fields, or marks it for grouping
(`Selector.Projects`), becomes a node that projects. Applied to its own output it gives that output
again, and grouped output has no two objects in one list whose fields are all alike. This says what
it means to remove duplicates: of records that look the same in the fields, one is left.
-/

namespace Reshape

variable {r : Resolver}

/-- The aggregation that a selector asks for by its name alone. -/
def Selector.named? (r : Resolver) : Selector → Option Aggregation
  | .named name => r.aggregation? name
  | _ => none

/-- The selector of a field that is part of the key of its group. -/
def Selector.IsGroupMarker (r : Resolver) (s : Selector) : Prop :=
  ∃ name, s = .named name ∧ r.aggregation? name = some .group

/-- The selector of a field that is copied, grouped by or not. -/
def Selector.Projects (r : Resolver) (s : Selector) : Prop := s = .copy ∨ s.IsGroupMarker r

/-- The field that a projected one compiles to. -/
def projectedField (r : Resolver) (field : String × Selector) : Field :=
  ⟨r.key field.1, r.key field.1, id, field.2.named? r, none⟩

namespace Selector

theorem IsGroupMarker.named?_eq {s : Selector} (h : s.IsGroupMarker r) :
    s.named? r = some .group := by
  obtain ⟨name, rfl, hgroup⟩ := h
  exact hgroup

theorem Projects.compile_eq {s : Selector} (h : s.Projects r) :
    s.compile r = .ok { Compiled.reading .same with aggregation := s.named? r } := by
  rcases h with rfl | ⟨name, rfl, hgroup⟩
  · rw [compile]
    rfl
  · rw [compile, named?, hgroup]

/-- A projected field is not folded. -/
theorem Projects.fold?_eq {s : Selector} (h : s.Projects r) :
    (s.named? r).bind Aggregation.fold? = none := by
  rcases h with rfl | hgroup
  · rfl
  · rw [hgroup.named?_eq]
    rfl

end Selector

variable {fields : List (String × Selector)}

theorem compileEntries_of_projects (hnames : ∀ field ∈ fields, (r.key field.1).kind = .name)
    (hprojects : ∀ field ∈ fields, field.2.Projects r) :
    compileEntries r fields = .ok ((fields.map (projectedField r)).map .field, []) := by
  induction fields with
  | nil =>
    rw [compileEntries]
    rfl
  | cons field fields ih =>
    obtain ⟨hname, hnames⟩ := List.forall_mem_cons.1 hnames
    obtain ⟨hfield, hprojects⟩ := List.forall_mem_cons.1 hprojects
    have hcheck : checkDestination field.1 (r.key field.1) = .ok () := by
      cases hkey : r.key field.1 with
      | name name => rfl
      | position n =>
        rw [hkey] at hname
        cases hname
    exact compileEntries_cons_eq_ok.2
      ⟨hcheck, _, _, _, hfield.compile_eq, ih hnames hprojects, rfl, rfl⟩

/-- An object selector under names whose fields are all copied or mark groups gives its output back
when it is applied to it. If it marks groups, under names of which no two are the same, any two
objects in one list of its output have a field that looks different in canonical text. -/
theorem FieldSelector.projection_idempotent (fields : List (String × Selector))
    (hnonempty : fields ≠ []) (hnames : ∀ field ∈ fields, (r.key field.1).kind = .name)
    (hprojects : ∀ field ∈ fields, field.2.Projects r) :
    ∃ node, (FieldSelector.mk fields none none).node r = .ok node ∧
      (∀ v w, node.apply v = some w → node.apply w = some w) ∧
      ((fields.map (r.key ·.1)).Nodup → (∃ field ∈ fields, field.2.IsGroupMarker r) →
        ∀ v w, node.apply v = some w → w.EveryList fun items =>
          (items.filter Value.isObject).Pairwise
            (Value.DifferIn (fields.map fun field => (r.key field.1).text))) := by
  let planned := fields.map (projectedField r)
  have hplanned : ∀ f ∈ planned, f.dest.kind = .name := List.forall_mem_map.2 hnames
  have hsame : ∀ f ∈ planned, f.source = f.dest := List.forall_mem_map.2 fun _ _ => rfl
  have hnode : (Node.plan (planned.map .field) .unspecified none).Projects :=
    Node.projects_plan hplanned hsame (mt List.map_eq_nil_iff.1 hnonempty)
      (List.forall_mem_map.2 fun _ _ => rfl)
      (List.forall_mem_map.2 fun field hfield => (hprojects field hfield).fold?_eq)
      (List.forall_mem_map.2 fun _ _ => rfl)
  refine ⟨Node.plan (planned.map .field) .unspecified none, ?_, fun v w => hnode.apply_of_apply, ?_⟩
  · exact node_eq_ok.2 ⟨_, _, .unspecified, [], none, compileEntries_of_projects hnames hprojects,
      by rw [compileRemaining], rfl, rfl⟩
  · rintro hnodup ⟨field, hfield, hmarker⟩ v w happly
    have hfields : (Node.plan (planned.map .field) .unspecified none).fields = planned := by
      refine Node.fields_plan_eq hplanned hsame ?_ .unspecified none
      rw [List.map_map]
      exact hnodup
    have hgrouped : (Node.plan (planned.map .field) .unspecified none).isGrouped = true := by
      rw [Node.isGrouped, hfields, List.any_eq_true]
      refine ⟨projectedField r field, List.mem_map_of_mem hfield, ?_⟩
      rw [projectedField, hmarker.named?_eq]
      rfl
    have htexts : (Node.plan (planned.map .field) .unspecified none).dests.map Key.text =
        fields.map fun field => (r.key field.1).text := by
      rw [Node.dests, hfields, List.map_map, List.map_map]
      rfl
    rw [← htexts]
    exact hnode.distinct_of_settled hgrouped (hnode.settled_of_apply happly)

/-- Animals by kind and weight, without the others of one kind and weight: of equal weights the
first stays as it is written, an animal without weight is left out, and those of an inner list are
apart. -/
theorem FieldSelector.kinds_and_weights :
    let fields := [("kind", Selector.named "group"), ("weight", .copy)]
    let animal (kind : String) (weight : Value) :=
      Value.object [("kind", .string kind), ("weight", weight)]
    let named (name : String) (weight : Value) :=
      Value.object [("name", .string name), ("weight", weight), ("kind", .string "dog")]
    let heavy := Value.float (Value.floatOfInt 10)
    let items := Value.array [named "Rex" (.int 10), .array [named "Rex" heavy, animal "dog" heavy],
      .object [("kind", .string "cat")], named "Bo" heavy, .string "dog", animal "cat" (.int 10)]
    let output := Value.array [animal "dog" (.int 10), animal "dog" (.string "dog"),
      animal "cat" (.int 10), .array [animal "dog" heavy]]
    fields ≠ [] ∧ (∀ field ∈ fields, (Resolver.standard.key field.1).kind = .name) ∧
      (∀ field ∈ fields, field.2.Projects .standard) ∧
      (fields.map (Resolver.standard.key ·.1)).Nodup ∧
      (∃ field ∈ fields, field.2.IsGroupMarker .standard) ∧
      ∃ node, (FieldSelector.mk fields none none).node .standard = .ok node ∧
        node.apply items = some output ∧ node.apply output = some output ∧
        output.EveryList fun items =>
          (items.filter Value.isObject).Pairwise (Value.DifferIn ["kind", "weight"]) := by
  intro fields animal named heavy items output
  have hnames : ∀ field ∈ fields, (Resolver.standard.key field.1).kind = .name := by
    decide +kernel
  have hmarker : (Selector.named "group").IsGroupMarker .standard := ⟨"group", rfl, rfl⟩
  have hprojects : ∀ field ∈ fields, field.2.Projects .standard := by
    simp [fields, Selector.Projects, hmarker]
  have hnodup : (fields.map (Resolver.standard.key ·.1)).Nodup := by decide +kernel
  have hmarked : ∃ field ∈ fields, field.2.IsGroupMarker .standard :=
    ⟨_, List.mem_cons_self, hmarker⟩
  obtain ⟨node, hnode, hfixed, hdistinct⟩ :=
    projection_idempotent fields (List.cons_ne_nil _ _) hnames hprojects
  have hruns : (do
      let node ← (FieldSelector.mk fields none none).node .standard
      return node.apply items).toOption = some (some output) := by
    decide +kernel
  rw [hnode] at hruns
  have houtput : node.apply items = some output := Option.some.inj hruns
  have htexts : (fields.map fun field => (Resolver.standard.key field.1).text) =
      ["kind", "weight"] := by
    decide +kernel
  refine ⟨List.cons_ne_nil _ _, hnames, hprojects, hnodup, hmarked, node, hnode, houtput,
    hfixed _ _ houtput, ?_⟩
  rw [← htexts]
  exact hdistinct hnodup hmarked _ _ houtput

end Reshape
