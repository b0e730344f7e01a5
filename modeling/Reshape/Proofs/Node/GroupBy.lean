import Reshape.Proofs.Node.Directives
import Reshape.Proofs.Node.Grouping
import Reshape.Proofs.Node.Plan

/-!
# Grouping as the outputs show it

A node that reads and writes names groups rows, and rows hold more than the outputs do: which field
a value belongs to, and which values are leftovers. Here grouping is stated about outputs only, as a
grouping of the objects that the same node gives without its aggregation directives
(`groupRecords`).

The two agree because an object still shows everything about its row: destinations are distinct, no
leftover is written to one, and no field is absent (`Node.Complete`). So the key of a row can be
read off its object, and merging rows can be seen in their objects.
-/

namespace Reshape

/-- The entries of an output object. -/
abbrev Record := List (String × Value)

section Records

variable (fold? : String → Option Fold)

/-- What the records of one group have in common: all entries that are not folded, in canonical text
and whatever their order. -/
def recordKey (record : Record) : Multiset (String × String) :=
  ((record.filter fun entry => (fold? entry.1).isNone).map
    fun entry => (entry.1, entry.2.canonicalText) : List (String × String))

/-- An entry in the record of a group, given the entry of the group's first record. -/
def mergeEntry (group : List Record) : String × Value → String × Value
  | (name, v) =>
    match fold? name with
    | some f => (name, f.run (group.filterMap (·.lookup name)))
    | none => (name, v)

/-- The record of a group: its first one with the fold of the group's values in every folded entry.
-/
def mergeRecords (group : List Record) : Record := (group.headD []).map (mergeEntry fold? group)

/-- One record for each group. -/
def groupRecords (records : List Record) : List Record :=
  (groupsBy (recordKey fold?) records).map (mergeRecords fold?)

end Records

/-- The fold of a field. -/
def Field.fold? (f : Field) : Option Fold := f.aggregation.bind Aggregation.fold?

namespace Node

variable {node : Node} {row first : Row} {a b : Row}

/-- The fold of the field that writes to a name. -/
def foldOf? (node : Node) (name : String) : Option Fold :=
  (node.fields.find? fun f => f.dest.text == name).bind Field.fold?

/-- A row that loses nothing when it is written as an object: it has a value for every field, and
its leftovers go elsewhere. -/
structure Complete (node : Node) (row : Row) : Prop where
  length : row.values.length = node.fields.length
  present : ∀ v ∈ row.values, v.isSome
  fresh : ∀ p ∈ row.rest, ∀ field ∈ node.fields, p.1.text ≠ field.dest.text

/-- A node that writes names extracts complete rows. -/
theorem complete_of_extract (hdest : node.strategy.dest = .name) {input : Value}
    (h : node.extract input = some row) : node.Complete row := by
  rcases node.extract_cases h with ⟨-, rfl⟩ | ⟨-, hvalues, hpresent, hrest⟩
  · refine ⟨List.length_map _, fun v hv => ?_, fun _ hp => nomatch hp⟩
    obtain ⟨field, -, rfl⟩ := List.mem_map.1 hv
    cases field.mapper (some input) <;> rfl
  · refine ⟨by rw [hvalues, List.length_map], hpresent hdest, fun p hp field hfield htext => ?_⟩
    rcases hrest with ⟨-, hrest⟩ | ⟨mapper, -, hrest⟩
    · rw [hrest] at hp
      cases hp
    · rw [hrest, mem_leftovers] at hp
      obtain ⟨v, -, -, hclaims, -⟩ := hp
      have htaken : p.1.text ∈ (node.dests ++ node.excluded).map Key.text := by
        rw [htext]
        exact List.mem_map_of_mem (List.mem_append_left _ (List.mem_map_of_mem hfield))
      exact Bool.false_ne_true (hclaims ▸ (node.claims_of_dest_name hdest p.1).2 htaken)

/-! ## Objects -/

/-- The entries of the fields of a complete row. -/
def fieldEntries (node : Node) (row : Row) : Record :=
  (node.fields.zip row.values).map fun p => (p.1.dest.text, p.2.getD .null)

/-- The entries of the leftovers of a row. -/
def restEntries (row : Row) : Record := row.rest.map fun p => (p.1.text, p.2)

theorem filterMap_zip_eq {fields : List Field} {values : List (Option Value)}
    (h : ∀ v ∈ values, v.isSome) :
    (((fields.map (·.dest)).zip values).filterMap fun p => p.2.map fun v => (p.1.text, v)) =
      (fields.zip values).map fun p => (p.1.dest.text, p.2.getD .null) := by
  induction fields generalizing values with
  | nil => rfl
  | cons field fields ih =>
    cases values with
    | nil => rfl
    | cons value values =>
      obtain ⟨hvalue, hvalues⟩ := List.forall_mem_cons.1 h
      obtain ⟨v, rfl⟩ := Option.isSome_iff_exists.1 hvalue
      exact congrArg (List.cons (field.dest.text, v)) (ih hvalues)

theorem Complete.map_fst_fieldEntries (h : node.Complete row) :
    (node.fieldEntries row).map (·.1) = node.fields.map fun f => f.dest.text := by
  have hfields : (node.fields.zip row.values).map (·.1) = node.fields :=
    List.map_fst_zip h.length.ge
  conv_rhs => rw [← hfields, List.map_map]
  rw [fieldEntries, List.map_map]
  rfl

/-- A complete row is written with all its fields, and then its leftovers. -/
theorem Complete.writeObject_eq (h : node.Complete row) :
    writeObject node.dests row = node.fieldEntries row ++ restEntries row :=
  congrArg (· ++ restEntries row) (filterMap_zip_eq h.present)

/-- The names that the fields write to are distinct. -/
theorem Planned.nodup_names (h : node.Planned) :
    (node.fields.map fun f => f.dest.text).Nodup := by
  have hnames : (node.fields.map fun f => f.dest.text) = node.dests.map Key.text := by
    rw [dests, List.map_map]
    rfl
  rw [hnames]
  exact nodup_texts h.nodup (List.forall_mem_map.2 h.dest)

theorem find?_eq_of_mem {fields : List Field} (h : (fields.map fun f => f.dest.text).Nodup)
    {field : Field} (hmem : field ∈ fields) :
    fields.find? (fun f => f.dest.text == field.dest.text) = some field := by
  induction fields with
  | nil => cases hmem
  | cons f fields ih =>
    obtain ⟨hf, hfields⟩ := List.nodup_cons.1 h
    rcases List.mem_cons.1 hmem with rfl | hmem
    · exact List.find?_cons_of_pos (beq_self_eq_true _)
    · have hne : f.dest.text ≠ field.dest.text := fun heq =>
        hf (List.mem_map.2 ⟨field, hmem, heq.symm⟩)
      rw [List.find?_cons_of_neg (by simpa using hne)]
      exact ih hfields hmem

theorem Planned.foldOf?_eq (h : node.Planned) {field : Field} (hmem : field ∈ node.fields) :
    node.foldOf? field.dest.text = field.fold? := by
  rw [foldOf?, find?_eq_of_mem h.nodup_names hmem]
  rfl

/-- Leftovers are not folded. -/
theorem Complete.foldOf?_rest (h : node.Complete row) {p : Key × Value} (hp : p ∈ row.rest) :
    node.foldOf? p.1.text = none := by
  have hfind : node.fields.find? (fun f => f.dest.text == p.1.text) = none := by
    refine List.find?_eq_none.2 ?_
    intro field hfield htext
    exact h.fresh p hp field hfield (beq_iff_eq.1 htext).symm
  rw [foldOf?, hfind]
  rfl

/-! ## Keys -/

/-- The names and the texts of the fields that are not folded. -/
def fieldTexts (fields : List Field) (values : List (Option Value)) : List (String × String) :=
  ((fields.zip values).filter fun p => p.1.fold?.isNone).map
    fun p => (p.1.dest.text, (p.2.getD .null).canonicalText)

theorem map_fst_fieldTexts {fields : List Field} {values : List (Option Value)}
    (h : values.length = fields.length) : (fieldTexts fields values).map (·.1) =
      (fields.filter fun f => f.fold?.isNone).map fun f => f.dest.text := by
  have hfields : (fields.zip values).map (·.1) = fields := List.map_fst_zip h.ge
  conv_rhs => rw [← hfields, List.filter_map, List.map_map]
  rw [fieldTexts, List.map_map]
  rfl

/-- The fields' part of the key lists the texts. -/
theorem fieldsKey_eq_map {fields : List Field} {values : List (Option Value)}
    (h : ∀ v ∈ values, v.isSome) :
    fieldsKey (fields.map Field.fold?) values = (fieldTexts fields values).map (some ·.2) := by
  induction fields generalizing values with
  | nil => rfl
  | cons field fields ih =>
    cases values with
    | nil => rfl
    | cons value values =>
      obtain ⟨hvalue, hvalues⟩ := List.forall_mem_cons.1 h
      obtain ⟨v, rfl⟩ := Option.isSome_iff_exists.1 hvalue
      have hrest := ih hvalues
      cases hfold : field.fold? with
      | none => simpa [fieldsKey, fieldTexts, hfold] using hrest
      | some f => simpa [fieldsKey, fieldTexts, hfold] using hrest

theorem mem_fieldTexts {fields : List Field} {values : List (Option Value)} {p : String × String}
    (h : p ∈ fieldTexts fields values) : p.1 ∈ fields.map fun f => f.dest.text := by
  obtain ⟨q, hq, rfl⟩ := List.mem_map.1 h
  exact List.mem_map_of_mem (List.of_mem_zip (List.mem_filter.1 hq).1).1

theorem Complete.name_notMem (h : node.Complete row) : ∀ p ∈ restTexts row.rest,
    p.1 ∉ node.fields.map fun f => f.dest.text := by
  intro p hp hmem
  obtain ⟨q, hq, rfl⟩ := mem_restTexts_iff.1 hp
  obtain ⟨field, hfield, htext⟩ := List.mem_map.1 hmem
  exact h.fresh q hq field hfield htext.symm

/-- The key of a complete row's object. -/
theorem Complete.recordKey_eq (hnode : node.Planned) (h : node.Complete row) :
    recordKey node.foldOf? (writeObject node.dests row) =
      (fieldTexts node.fields row.values ++ restTexts row.rest : List (String × String)) := by
  have hfields : (node.fieldEntries row).filter (fun entry => (node.foldOf? entry.1).isNone) =
      ((node.fields.zip row.values).filter fun p => p.1.fold?.isNone).map
        fun p => (p.1.dest.text, p.2.getD .null) := by
    rw [fieldEntries, List.filter_map]
    refine congrArg _ (List.filter_congr fun p hp => ?_)
    rw [Function.comp_apply, hnode.foldOf?_eq (List.of_mem_zip hp).1]
  have hrest : (restEntries row).filter (fun entry => (node.foldOf? entry.1).isNone) =
      restEntries row := by
    refine List.filter_eq_self.2 ?_
    intro entry hentry
    obtain ⟨p, hp, rfl⟩ := List.mem_map.1 hentry
    exact congrArg Option.isNone (h.foldOf?_rest hp)
  rw [recordKey, h.writeObject_eq, List.filter_append, hfields, hrest, List.map_append,
    List.map_map, restEntries, List.map_map]
  rfl

/-- Rows have one key exactly when their objects do. -/
theorem Complete.groupKey_eq_iff (hnode : node.Planned) (ha : node.Complete a)
    (hb : node.Complete b) : groupKey node.folds a = groupKey node.folds b ↔
      recordKey node.foldOf? (writeObject node.dests a) =
        recordKey node.foldOf? (writeObject node.dests b) := by
  have hfolds : node.folds = node.fields.map Field.fold? := rfl
  have hnames : (fieldTexts node.fields a.values).map (·.1) =
      (fieldTexts node.fields b.values).map (·.1) := by
    rw [map_fst_fieldTexts ha.length, map_fst_fieldTexts hb.length]
  have hnodup : ((fieldTexts node.fields a.values).map (·.1)).Nodup := by
    rw [map_fst_fieldTexts ha.length]
    exact hnode.nodup_names.sublist (List.filter_sublist.map _)
  rw [groupKey_eq_append, groupKey_eq_append, ha.recordKey_eq hnode, hb.recordKey_eq hnode,
    Multiset.coe_eq_coe, hfolds, fieldsKey_eq_map ha.present, fieldsKey_eq_map hb.present]
  constructor
  · intro h
    have hlength : ((fieldTexts node.fields a.values).map (some ·.2)).length =
        ((fieldTexts node.fields b.values).map (some ·.2)).length := by
      have := congrArg List.length hnames
      simpa only [List.length_map] using this
    obtain ⟨hfields, hrest⟩ := List.append_inj h hlength
    have htexts : (fieldTexts node.fields a.values).map (·.2) =
        (fieldTexts node.fields b.values).map (·.2) := by
      refine List.map_injective_iff.2 (Option.some_injective _) ?_
      rw [List.map_map, List.map_map]
      exact hfields
    have heq : fieldTexts node.fields a.values = fieldTexts node.fields b.values :=
      (List.zip_of_prod hnames htexts).trans (List.zip_of_prod rfl rfl).symm
    rw [heq]
    exact (restKey_eq_iff.1 hrest).append_left _
  · intro h
    have hsplit := (append_perm_append_iff (fun p hp => mem_fieldTexts hp)
      (fun p hp => mem_fieldTexts hp) ha.name_notMem hb.name_notMem).1 h
    rw [eq_of_perm_of_map_fst_eq hnodup hnames hsplit.1, restKey_eq_iff.2 hsplit.2]

/-! ## Merging -/

/-- A complete row has a value for each field. -/
theorem Complete.value_eq (h : node.Complete row) {i : Nat} (hi : i < row.values.length) :
    row.value i = some (row.values[i].getD .null) := by
  obtain ⟨v, hv⟩ := Option.isSome_iff_exists.1 (h.present _ (List.getElem_mem hi))
  rw [Row.value_eq_getElem hi, hv]
  rfl

/-- An object holds the value of a field under the field's name. -/
theorem Complete.lookup_writeObject (hnode : node.Planned) (h : node.Complete row) {i : Nat}
    (hi : i < node.fields.length) :
    (writeObject node.dests row).lookup node.fields[i].dest.text = row.value i := by
  have hi' : i < row.values.length := h.length ▸ hi
  have hmem : (node.fields[i].dest.text, row.values[i].getD .null) ∈ node.fieldEntries row := by
    refine List.mem_map.2 ⟨(node.fields[i], row.values[i]), ?_, rfl⟩
    have hzip : i < (node.fields.zip row.values).length := by
      rw [List.length_zip]
      omega
    exact List.getElem_zip (h := hzip) ▸ List.getElem_mem hzip
  rw [h.writeObject_eq, List.lookup_append,
    (lookup_eq_some_iff_mem (h.map_fst_fieldEntries ▸ hnode.nodup_names)).2 hmem, h.value_eq hi']
  rfl

theorem getElem_mergeRows {folds : Folds} {rows : List Row} {i : Nat} (hi : i < folds.length)
    (h : i < (mergeRows folds first rows).values.length) :
    (mergeRows folds first rows).values[i] =
      (folds[i].map fun f => f.run (rows.filterMap (·.value i))).or (first.value i) := by
  simp only [mergeRows, List.getElem_map, List.getElem_zipIdx, Nat.zero_add]
  cases folds[i] <;> rfl

theorem complete_mergeRows (h : node.Complete first) (rows : List Row) :
    node.Complete (mergeRows node.folds first rows) := by
  have hlength : (mergeRows node.folds first rows).values.length = node.fields.length := by
    simp [mergeRows, folds]
  refine ⟨hlength, fun v hv => ?_, h.fresh⟩
  obtain ⟨i, hi, rfl⟩ := List.getElem_of_mem hv
  rw [getElem_mergeRows (by rw [length_folds]; omega) hi, h.value_eq (by rw [h.length]; omega)]
  exact Option.isSome_or.trans (Bool.or_true _)

/-- Merging rows and writing the result is merging what the rows are written as. -/
theorem writeObject_mergeGroup (hnode : node.Planned) {group : List Row}
    (hgroup : ∃ first others, group = first :: others) (hrows : ∀ row ∈ group, node.Complete row) :
    writeObject node.dests (mergeGroup node.folds group) =
      mergeRecords node.foldOf? (group.map (writeObject node.dests)) := by
  obtain ⟨first, others, rfl⟩ := hgroup
  have hfirst := hrows first List.mem_cons_self
  have hmerged := complete_mergeRows hfirst (first :: others)
  let objects := (first :: others).map (writeObject node.dests)
  -- Only the entries of the fields change, each by the fold of its field.
  have hrest : (restEntries first).map (mergeEntry node.foldOf? objects) = restEntries first := by
    refine (List.map_congr_left fun entry hentry => ?_).trans (List.map_id _)
    obtain ⟨p, hp, rfl⟩ := List.mem_map.1 hentry
    rw [mergeEntry, hfirst.foldOf?_rest hp]
    rfl
  have hfields : (node.fieldEntries first).map (mergeEntry node.foldOf? objects) =
      node.fieldEntries (mergeRows node.folds first (first :: others)) := by
    refine List.ext_getElem ?_ ?_
    · simp [fieldEntries, hfirst.length, hmerged.length]
    intro i hi hi'
    have hfield : i < node.fields.length := by
      simp only [fieldEntries, List.length_map, List.length_zip] at hi'
      omega
    have hvalues : objects.filterMap (·.lookup node.fields[i].dest.text) =
        (first :: others).filterMap (·.value i) := by
      rw [List.filterMap_map]
      refine List.filterMap_congr ?_
      intro row hrow
      exact (hrows row hrow).lookup_writeObject hnode hfield
    have hfolds : i < node.folds.length := node.length_folds ▸ hfield
    have hfold : node.folds[i] = node.fields[i].fold? := List.getElem_map _
    simp only [fieldEntries, List.getElem_map, List.getElem_zip]
    rw [mergeEntry, hnode.foldOf?_eq (List.getElem_mem hfield), hvalues, getElem_mergeRows hfolds,
      hfold, hfirst.value_eq (hfirst.length ▸ hfield)]
    cases node.fields[i].fold? with
    | some f => rfl
    | none => rfl
  rw [mergeGroup, List.headD_cons, hmerged.writeObject_eq, mergeRecords, List.map_cons,
    List.headD_cons, hfirst.writeObject_eq, List.map_append, ← hfirst.writeObject_eq]
  exact congrArg₂ (· ++ ·) hfields.symm hrest.symm

/-! ## Lists of records -/

theorem sortKeys_eq_nil (h : ∀ field ∈ node.fields, field.sort = none) : node.sortKeys = [] := by
  rw [sortKeys, SortKey.ofDirectives, List.filterMap_eq_nil_iff.2]
  · rfl
  · intro p hp
    obtain ⟨field, hfield, hsort⟩ := List.mem_map.1 (List.fst_mem_of_mem_zipIdx hp)
    exact Option.map_eq_none_iff.2 (hsort ▸ h field hfield)

theorem sortRows_nil (rows : List Row) : sortRows [] rows = rows :=
  @stableSort_of_ties _ (compareRows []) (fun _ _ h => by cases h) rows

/-- The outputs for the records of a list, in terms of their rows. -/
theorem filterMap_apply_withoutAggregation (hpassthrough : node.passthrough = false)
    (items : List Value) :
    (items.filter fun v => !v.isArray).filterMap node.withoutAggregation.apply =
      ((items.filter fun v => !v.isArray && node.passes v).filterMap node.extract).map
        node.write := by
  rw [List.map_filterMap, List.filterMap_filter, List.filterMap_filter]
  refine List.filterMap_congr ?_
  intro v _
  cases harray : v.isArray with
  | true => rfl
  | false =>
    rw [apply_of_not_isArray _ harray,
      applyRecord_of_not_isGrouped node.isGrouped_withoutAggregation hpassthrough,
      extract_withoutAggregation, write_withoutAggregation]
    simp only [Bool.not_false, Bool.true_and, if_true]
    rfl

/-- A node that reads and writes names, groups and does not sort makes of a list the grouping of the
objects that it would give for the records without its aggregation directives. What it makes of the
lists inside the list follows behind. -/
theorem apply_array_of_isGrouped (hnode : node.Planned) (hnames : node.strategy = ⟨.name, .name⟩)
    (hgrouped : node.isGrouped = true) (hsort : ∀ field ∈ node.fields, field.sort = none)
    (items : List Value) :
    ∃ records, (items.filter fun v => !v.isArray).filterMap node.withoutAggregation.apply =
        records.map .object ∧
      node.apply (.array items) =
        some (.array ((groupRecords node.foldOf? records).map .object ++
          (items.filter Value.isArray).filterMap node.apply)) := by
  have hdest : node.strategy.dest = .name := by rw [hnames]
  have hfields : node.fields ≠ [] := by
    intro h
    simp [isGrouped, h] at hgrouped
  have hpassthrough := hnode.not_passthrough hfields
  have hplain : node.isPlain = false := by simp [isPlain, hgrouped]
  have hwrite : node.write = fun row => .object (writeObject node.dests row) := by
    funext row
    rw [write, hdest]
  let rows := (items.filter fun v => !v.isArray && node.passes v).filterMap node.extract
  have hrows : ∀ row ∈ rows, node.Complete row := by
    intro row hrow
    obtain ⟨v, -, hextract⟩ := List.mem_filterMap.1 hrow
    exact complete_of_extract hdest hextract
  refine ⟨rows.map (writeObject node.dests), ?_, ?_⟩
  · rw [filterMap_apply_withoutAggregation hpassthrough, hwrite, List.map_map]
    rfl
  have hgroups : groupsBy (recordKey node.foldOf?) (rows.map (writeObject node.dests)) =
      (groupsBy (groupKey node.folds) rows).map (List.map (writeObject node.dests)) := by
    rw [groupsBy_map]
    refine congrArg _ (groupsBy_congr fun a ha b hb => ?_).symm
    exact (hrows a ha).groupKey_eq_iff hnode (hrows b hb)
  have hrecords : groupRecords node.foldOf? (rows.map (writeObject node.dests)) =
      (foldRows node.folds rows).map (writeObject node.dests) := by
    rw [groupRecords, hgroups, foldRows_eq, List.map_map, List.map_map]
    refine List.map_congr_left ?_
    intro group hgroup
    obtain ⟨hfirst, hsubset⟩ := exists_of_mem_groupsBy hgroup
    exact (writeObject_mergeGroup hnode hfirst fun row hrow => hrows row (hsubset hrow)).symm
  have htogether : node.applyTogether items =
      (groupRecords node.foldOf? (rows.map (writeObject node.dests))).map .object := by
    rw [applyTogether, sortKeys_eq_nil hsort, sortRows_nil, groupRows, if_pos hgrouped, hrecords,
      hwrite, List.map_map]
    rfl
  rw [apply_array_of_not_isPlain (by rw [hnames]) hplain, htogether]

end Node

end Reshape
