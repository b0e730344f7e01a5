import Reshape.Node.Basic

/-!
# Applying a node

What a node extracts from a record, taken apart once (`extract_cases`, `mem_leftovers`), and what it
makes of an array: the two traversals of a list are selections of what `Node.apply` gives for its
elements.
-/

namespace Reshape

theorem Value.exists_items {v : Value} (h : v.isArray = true) : ∃ items, v = .array items := by
  cases v <;> first | exact ⟨_, rfl⟩ | simp [isArray] at h

theorem Value.isArray_of_isTerminal {v : Value} (h : v.isTerminal = true) : v.isArray = false := by
  cases v <;> first | rfl | cases h

theorem Row.value_eq_getElem {row : Row} {i : Nat} (h : i < row.values.length) :
    row.value i = row.values[i] := by
  rw [value, List.getElem?_eq_getElem h]
  rfl

namespace Node

variable (node : Node)

/-! ## Records -/

theorem claims_of_dest_name (hdest : node.strategy.dest = .name) (key : Key) :
    node.claims key = true ↔ key.text ∈ (node.dests ++ node.excluded).map Key.text := by
  simp only [claims, hdest, List.contains_iff_mem]

/-- A leftover is the mapped value of an entry that no field reads and nothing claims. -/
theorem mem_leftovers {mapper : Mapper} {input : Value} {p : Key × Value} :
    p ∈ node.leftovers mapper input ↔
      ∃ v, (p.1, v) ∈ node.strategy.source.entries input ∧
        p.1 ∉ node.fields.map (fun f => f.source.resolve input) ∧ node.claims p.1 = false ∧
        mapper (some v) = some p.2 := by
  rw [leftovers, List.mem_filterMap]
  constructor
  · rintro ⟨⟨key, v⟩, hmem, hp⟩
    dsimp only at hp
    split at hp
    · cases hp
    case isFalse hfree =>
      obtain ⟨w, hw, rfl⟩ := Option.map_eq_some_iff.1 hp
      simp only [Bool.or_eq_true, List.contains_iff_mem, not_or, Bool.not_eq_true] at hfree
      exact ⟨v, hmem, hfree.1, hfree.2, hw⟩
  · rintro ⟨v, hmem, hread, hclaims, hw⟩
    refine ⟨(p.1, v), hmem, ?_⟩
    have hread : (node.fields.map fun f => f.source.resolve input).contains p.1 = false := by
      rw [Bool.eq_false_iff, ne_eq, List.contains_iff_mem]
      exact hread
    simp only [hread, hclaims, Bool.or_self, if_neg Bool.false_ne_true, hw, Option.map_some]

/-- The row of a record is its broadcast when it is a terminal value, and otherwise holds what the
fields read, in an output object none of it absent, and the leftovers. -/
theorem extract_cases {input : Value} {row : Row} (h : node.extract input = some row) :
    input.isTerminal = true ∧ row = node.broadcast input ∨
      input.isTerminal = false ∧
        row.values = node.fields.map (fun f => f.mapper (f.source.read input)) ∧
        (node.strategy.dest = .name → ∀ v ∈ row.values, v.isSome) ∧
        (node.remaining = none ∧ row.rest = [] ∨
          ∃ mapper, node.remaining = some mapper ∧ row.rest = node.leftovers mapper input) := by
  rw [extract] at h
  split at h
  case isTrue hterminal =>
    cases h
    exact .inl ⟨hterminal, rfl⟩
  case isFalse hterminal =>
    dsimp only at h
    split at h
    · cases h
    case isFalse hall =>
      cases h
      refine .inr ⟨by simpa using hterminal, rfl, ?_, ?_⟩
      · intro hdest v hv
        simp only [hdest, beq_self_eq_true, Bool.true_and, List.any_eq_true, not_exists,
          not_and] at hall
        exact Option.isSome_iff_ne_none.2 fun hnone => hall v hv (hnone ▸ rfl)
      · cases hremaining : node.remaining with
        | none => exact .inl ⟨rfl, rfl⟩
        | some mapper => exact .inr ⟨mapper, rfl, rfl⟩

/-- What a node that neither groups nor hands anything through makes of a record. -/
theorem applyRecord_of_not_isGrouped {node : Node} (hgrouped : node.isGrouped = false)
    (hpassthrough : node.passthrough = false) (input : Value) :
    node.applyRecord input =
      if node.passes input then (node.extract input).map node.write else none := by
  rw [applyRecord, hpassthrough]
  cases node.passes input with
  | false => rfl
  | true => cases hrow : node.extract input <;> simp [groupRows, hgrouped]

/-! ## Arrays -/

theorem applyEach_eq_filterMap (items : List Value) :
    node.applyEach items = items.filterMap node.apply := by
  induction items with
  | nil => rfl
  | cons v vs ih =>
    rw [applyEach, ih]
    cases h : node.apply v <;> simp [h]

theorem applyArrays_eq_filterMap (items : List Value) :
    node.applyArrays items = (items.filter Value.isArray).filterMap node.apply := by
  induction items with
  | nil => rfl
  | cons v vs ih =>
    rw [applyArrays, ih]
    cases harray : v.isArray <;> cases h : node.apply v <;> simp [harray, h]

theorem apply_of_not_isArray {v : Value} (h : v.isArray = false) :
    node.apply v = node.applyRecord v := by
  cases v <;> first | rfl | simp [Value.isArray] at h

theorem distributes_of_source_name {node : Node} (h : node.strategy.source = .name) :
    node.distributes = true := by
  rw [distributes, h]
  rfl

/-- A node that reads names takes the records of a list one by one, if it neither groups nor sorts.
-/
theorem apply_array_of_isPlain {node : Node} (hnames : node.strategy.source = .name)
    (hplain : node.isPlain = true) (items : List Value) :
    node.apply (.array items) = some (.array (items.filterMap node.apply)) := by
  rw [apply, if_pos (distributes_of_source_name hnames), if_pos hplain, applyEach_eq_filterMap]

/-- If it does, it takes the records together, and the lists inside the list follow behind. -/
theorem apply_array_of_not_isPlain {node : Node} (hnames : node.strategy.source = .name)
    (hplain : node.isPlain = false) (items : List Value) :
    node.apply (.array items) = some (.array (node.applyTogether items ++
      (items.filter Value.isArray).filterMap node.apply)) := by
  rw [apply, if_pos (distributes_of_source_name hnames), hplain, if_neg Bool.false_ne_true,
    applyArrays_eq_filterMap]

/-- A node that reads positions takes every value for one record. -/
theorem apply_of_source_position (h : node.strategy.source = .position) (v : Value) :
    node.apply v = node.applyRecord v := by
  have hdistributes : node.distributes = false := by rw [distributes, h]; rfl
  cases v with
  | array items => rw [apply, hdistributes, if_neg Bool.false_ne_true]
  | _ => rfl

end Node

end Reshape
