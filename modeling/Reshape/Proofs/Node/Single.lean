import Reshape.Proofs.Node.Basic
import Reshape.Proofs.Node.Grouping
import Reshape.Proofs.Node.Plan
import Reshape.Value.Identity

/-!
# A record alone and a list of one

A node has two ways to an output. A record on its own is filtered, read, taken for a group of one
and written; the records of a list are filtered and read first, then their rows are grouped and
sorted together, and what is left is written. Of a list of one record the second way makes the list
of what the first makes of the record.

Only the first way hands terminal values through. A node that does so has no field, hence no
directive, and takes the records of a list one by one.
-/

namespace Reshape.Node

variable {node : Node}

/-! ## A single row -/

theorem groupRows_nil (node : Node) : node.groupRows [] = [] := ite_self _

/-- Grouping leaves a row alone, whatever it makes of its values. -/
theorem exists_groupRows_singleton (node : Node) (row : Row) :
    ∃ merged, node.groupRows [row] = [merged] := by
  rw [groupRows]
  split
  · exact ⟨_, foldRows_singleton node.folds row⟩
  · exact ⟨row, rfl⟩

/-! ## A single record -/

/-- A record taken together with no other gives what it gives on its own. -/
theorem applyTogether_singleton (hpassthrough : node.passthrough = false) {v : Value}
    (hv : v.isArray = false) : node.applyTogether [v] = (node.applyRecord v).toList := by
  rw [applyTogether, applyRecord, hpassthrough]
  cases hpasses : node.passes v with
  | false =>
    have hrecords : [v].filter (fun v => !v.isArray && node.passes v) = [] := by
      simp [hpasses]
    rw [hrecords, List.filterMap_nil, groupRows_nil]
    rfl
  | true =>
    have hrecords : [v].filter (fun v => !v.isArray && node.passes v) = [v] := by
      simp [hv, hpasses]
    rw [hrecords]
    cases hrow : node.extract v with
    | none =>
      rw [List.filterMap_cons_none hrow, List.filterMap_nil, groupRows_nil]
      rfl
    | some row =>
      obtain ⟨merged, hmerged⟩ := exists_groupRows_singleton node row
      have hsorted : sortRows node.sortKeys [merged] = [merged] := rfl
      simp [hrow, hmerged, hsorted]

/-- A node without fields has no directive. -/
theorem isPlain_of_fields_eq_nil (h : node.fields = []) : node.isPlain = true := by
  have hkeys : node.sortKeys = [] := by
    rw [sortKeys, h]
    rfl
  rw [isPlain, hkeys, isGrouped, h]
  rfl

/-- A node that reads names makes of a list of one record the list of what it makes of the record,
which is empty when it makes nothing of it. -/
theorem apply_list_of_one (entries : List Entry) (remaining : Remaining) (filter : Option Test)
    (hnames : (Strategy.choose entries).source = .name) (v : Value) (hv : v.isArray = false) :
    let node := plan entries remaining filter
    node.apply (.array [v]) = some (.array (node.apply v).toList) := by
  intro node
  have hnode : node.Planned := planned_plan entries remaining filter
  cases hplain : node.isPlain with
  | true =>
    rw [apply_array_of_isPlain hnames hplain]
    cases h : node.apply v <;> simp [h]
  | false =>
    have hfields : node.fields ≠ [] := by
      intro hnil
      exact Bool.false_ne_true (hplain.symm.trans (isPlain_of_fields_eq_nil hnil))
    have harrays : [v].filter Value.isArray = [] := by simp [hv]
    rw [apply_array_of_not_isPlain hnames hplain,
      applyTogether_singleton (hnode.not_passthrough hfields) hv, harrays, List.filterMap_nil,
      List.append_nil, apply_of_not_isArray node hv]

/-- An animal alone and one that does not pass, by a node that filters, groups, sorts and writes
tuples. -/
theorem lists_of_one_animal :
    let entries : List Entry := [
      .field ⟨.position 0, .name "kind", id, some .group, some (-1)⟩,
      .field ⟨.position (-1), .name "weight", id, some (.fold .values), none⟩]
    let named : Test := fun v => (v.bind (·.get? "kind")).isSome
    let node := plan entries .unspecified (some named)
    let dog := Value.object [("kind", .string "dog"), ("weight", .int 10)]
    let unnamed := Value.object [("weight", .int 10)]
    (Strategy.choose entries).source = .name ∧ dog.isArray = false ∧ unnamed.isArray = false ∧
      node.apply dog = some (.array [.string "dog", .array [.int 10]]) ∧
      node.apply (.array [dog]) = some (.array [.array [.string "dog", .array [.int 10]]]) ∧
      node.apply unnamed = none ∧ node.apply (.array [unnamed]) = some (.array []) := by
  intro entries named node dog unnamed
  have hlist := apply_list_of_one entries .unspecified (some named) rfl
  have hdog : node.apply dog = some (.array [.string "dog", .array [.int 10]]) := by
    decide +kernel
  have hunnamed : node.apply unnamed = none := by decide +kernel
  refine ⟨rfl, rfl, rfl, hdog, ?_, hunnamed, ?_⟩
  · exact (hlist dog rfl).trans (by rw [hdog]; rfl)
  · exact (hlist unnamed rfl).trans (by rw [hunnamed]; rfl)

end Reshape.Node
