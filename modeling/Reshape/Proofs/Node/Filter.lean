import Reshape.Proofs.Node.Basic
import Reshape.Node.Plan
import Mathlib.Data.List.Basic

/-!
# What a filter adds to a node

A node that only filters (`Node.filterOnly`) hands on what passes, whole, and of a list the elements
that pass, at every depth. Any other node with a filter does without it the same to what that node
hands on. This is not how it runs: it tests a record where it comes upon it, alone, in a list taken
element by element or in a list that is grouped and sorted, and lists themselves it never tests.

A node that reads positions takes a whole list for one record, and so its filter tests the list.
-/

namespace Reshape.Node

variable {node : Node} {test : Test}

/-- The node without its filter. -/
def withoutFilter (node : Node) : Node := { node with filter := none }

/-- The node that does nothing but filter. -/
def filterOnly (test : Test) : Node := plan [] .unspecified (some test)

/-- Apart from its filter a node is planned as without one, if it does something besides. -/
theorem withoutFilter_plan {entries : List Entry} {remaining : Remaining}
    (h : (plan entries remaining (some test)).fields ≠ [] ∨ remaining ≠ .unspecified) :
    (plan entries remaining (some test)).withoutFilter = plan entries remaining none := by
  cases remaining with
  | unspecified =>
    have hfields : (Kept.of (Strategy.choose entries) [] entries).fields ≠ [] :=
      h.resolve_right (absurd rfl)
    simp [plan, withoutFilter, List.isEmpty_eq_false_iff.2 hfields]
  | dropped => rfl
  | copied mapper => rfl

/-! ## Records -/

theorem applyRecord_of_filter (h : node.filter = some test) (v : Value) :
    node.applyRecord v = if test (some v) then node.withoutFilter.applyRecord v else none := by
  have hpasses : node.passes v = test (some v) := by rw [passes, h]
  rw [applyRecord, hpasses]
  cases test (some v) <;> rfl

/-- The node that only filters gives a record back as it is. -/
theorem apply_filterOnly_of_not_isArray {v : Value} (h : v.isArray = false) :
    (filterOnly test).apply v = if test (some v) then some v else none := by
  rw [apply_of_not_isArray _ h, applyRecord_of_filter rfl]
  have hsame : (filterOnly test).withoutFilter.applyRecord v = some v := by
    cases v with
    | array items => cases h
    | object fields =>
      have hrow : (filterOnly test).withoutFilter.extract (.object fields) =
          some ⟨[], fields.map fun entry => (.name entry.1, entry.2)⟩ := by
        simp [extract, Value.isTerminal, leftovers, claims, dests, withoutFilter, filterOnly, plan,
          Kept.of, Strategy.choose, KeyKind.entries]
      have hwrite : (filterOnly test).withoutFilter.write
          ⟨[], fields.map fun entry => (.name entry.1, entry.2)⟩ = .object fields := by
        simp [write, writeObject, dests, withoutFilter, filterOnly, plan, Kept.of, Strategy.choose,
          Key.text, Function.comp_def]
      rw [applyRecord, hrow]
      exact congrArg some hwrite
    | _ => rfl
  rw [hsame]

theorem apply_filterOnly_array (items : List Value) :
    (filterOnly test).apply (.array items) =
      some (.array (items.filterMap (filterOnly test).apply)) := by
  rw [apply_array_of_isPlain rfl rfl]

/-! ## Lists -/

/-- Filtering keeps lists lists and records records. -/
theorem isArray_of_filterOnly {v w : Value} (h : (filterOnly test).apply v = some w) :
    w.isArray = v.isArray := by
  cases harray : v.isArray with
  | true =>
    obtain ⟨items, rfl⟩ := Value.exists_items harray
    rw [apply_filterOnly_array] at h
    cases h
    rfl
  | false =>
    rw [apply_filterOnly_of_not_isArray harray] at h
    split at h
    · cases h
      exact harray
    · cases h

theorem filter_filterOnly (items : List Value) :
    (items.filterMap (filterOnly test).apply).filter (fun v => !v.isArray) =
      items.filter fun v => !v.isArray && test (some v) := by
  induction items with
  | nil => rfl
  | cons v vs ih =>
    cases harray : v.isArray with
    | true =>
      obtain ⟨inner, rfl⟩ := Value.exists_items harray
      rw [List.filterMap_cons_some (apply_filterOnly_array inner),
        List.filter_cons_of_neg (by simp [Value.isArray]),
        List.filter_cons_of_neg (by simp [Value.isArray]), ih]
    | false =>
      cases htest : test (some v) <;>
        simp [apply_filterOnly_of_not_isArray harray, htest, harray, ih]

theorem filter_isArray_filterOnly (items : List Value) :
    (items.filterMap (filterOnly test).apply).filter Value.isArray =
      (items.filter Value.isArray).filterMap (filterOnly test).apply := by
  rw [List.filter_filterMap, List.filterMap_filter]
  refine List.filterMap_congr fun v _ => ?_
  cases h : (filterOnly test).apply v with
  | none => simp
  | some w => cases harray : v.isArray <;> simp [isArray_of_filterOnly h, harray]

/-- The records of a list that pass are the records of what passes of the list. -/
theorem applyTogether_of_filter (h : node.filter = some test) (items : List Value) :
    node.applyTogether items =
      node.withoutFilter.applyTogether (items.filterMap (filterOnly test).apply) := by
  have hrecords : (items.filterMap (filterOnly test).apply).filter
      (fun v => !v.isArray && node.withoutFilter.passes v) =
        items.filter fun v => !v.isArray && node.passes v := by
    simp only [passes, withoutFilter, Bool.and_true, filter_filterOnly, h]
  rw [applyTogether, applyTogether, hrecords]
  rfl

mutual

/-- A node with a filter that reads names does what it does without the filter to what passes. The
induction is on the value, because a list inside a list is filtered by the same node. -/
theorem apply_of_filter (h : node.filter = some test) (hnames : node.strategy.source = .name)
    (v : Value) : node.apply v = ((filterOnly test).apply v).bind node.withoutFilter.apply := by
  cases v with
  | array items =>
    have hitems := forall_apply_of_filter h hnames items
    have hnames' : node.withoutFilter.strategy.source = .name := hnames
    rw [apply_filterOnly_array, Option.bind_some]
    -- The filter leaves the directives as they are, so both nodes take the same way through a list.
    cases hplain : node.isPlain with
    | true =>
      have hplain' : node.withoutFilter.isPlain = true := hplain
      rw [apply_array_of_isPlain hnames hplain, apply_array_of_isPlain hnames' hplain',
        List.filterMap_filterMap, List.filterMap_congr hitems]
    | false =>
      have hplain' : node.withoutFilter.isPlain = false := hplain
      rw [apply_array_of_not_isPlain hnames hplain, apply_array_of_not_isPlain hnames' hplain',
        applyTogether_of_filter h, filter_isArray_filterOnly, List.filterMap_filterMap,
        List.filterMap_congr fun v hv => hitems v (List.mem_of_mem_filter hv)]
  | _ =>
    rw [apply_filterOnly_of_not_isArray rfl, apply_of_not_isArray _ rfl, applyRecord_of_filter h,
      apply_ite (Option.bind · _)]
    rfl

theorem forall_apply_of_filter (h : node.filter = some test)
    (hnames : node.strategy.source = .name) (items : List Value) :
    ∀ v ∈ items, node.apply v = ((filterOnly test).apply v).bind node.withoutFilter.apply := by
  cases items with
  | nil => exact fun _ hv => nomatch hv
  | cons v vs =>
    exact List.forall_mem_cons.2 ⟨apply_of_filter h hnames v, forall_apply_of_filter h hnames vs⟩

end

/-- A node with a filter that reads positions does what it does without the filter, or nothing. -/
theorem apply_of_filter_of_position (h : node.filter = some test)
    (hpositions : node.strategy.source = .position) (v : Value) :
    node.apply v = if test (some v) then node.withoutFilter.apply v else none := by
  have hplain : node.withoutFilter.apply v = node.withoutFilter.applyRecord v :=
    apply_of_source_position node.withoutFilter hpositions v
  rw [apply_of_source_position _ hpositions, hplain, applyRecord_of_filter h]

end Reshape.Node
