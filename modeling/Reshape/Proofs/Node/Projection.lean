import Reshape.Proofs.Node.Copy
import Reshape.Proofs.Node.Kept

/-!
# Projections

A node that copies fields under their own names, and at most groups by them (`Node.Projects`), makes
records that it gives back as they are: each holds all fields, under the names from which they are
read (`Projects.extract_write`). Grouping without folds only leaves rows out, all but the first of
those that share a key (`foldRows_eq_firstOfEach`), and of those that are left no two share one.

So what such a node makes of a value is of a form (`Node.Settled`) in which nothing changes when the
node is applied again (`Projects.apply_of_apply`), lists inside lists included; and if the node
groups, no two objects in one list of it show the same (`Projects.distinct_of_settled`).
-/

namespace Reshape

/-- A property of lists holds of every list in a value that is reached through lists alone. -/
inductive Value.EveryList (P : List Value → Prop) : Value → Prop
  | other {v : Value} : v.isArray = false → EveryList P v
  | list {items : List Value} : P items → (∀ v ∈ items, EveryList P v) → EveryList P (.array items)

/-- One of the named fields has different canonical texts in two values. -/
def Value.DifferIn (names : List String) (a b : Value) : Prop :=
  ∃ name ∈ names, (a.get? name).map canonicalText ≠ (b.get? name).map canonicalText

theorem filter_append_eq_left {α : Type} {p : α → Bool} {xs ys : List α}
    (hxs : ∀ x ∈ xs, p x = true) (hys : ∀ y ∈ ys, p y = false) : (xs ++ ys).filter p = xs := by
  rw [List.filter_append, List.filter_eq_self.2 hxs, List.filter_eq_nil_iff.2, List.append_nil]
  intro y hy
  rw [hys y hy]
  exact Bool.false_ne_true

/-! ## Rows without folds -/

section Unfolded

variable {folds : Folds} {rows : List Row}

theorem mergeRows_of_unfolded (hfolds : ∀ fold ∈ folds, fold = none) {first : Row}
    (h : first.values.length = folds.length) (rows : List Row) :
    mergeRows folds first rows = first := by
  have hlength : (mergeRows folds first rows).values.length = first.values.length := by
    simp [mergeRows, h]
  have hvalues : (mergeRows folds first rows).values = first.values := by
    refine List.ext_getElem hlength fun i hi hi' => ?_
    have hfold : i < folds.length := h ▸ hi'
    rw [Node.getElem_mergeRows hfold hi, hfolds _ (List.getElem_mem hfold)]
    exact Row.value_eq_getElem hi'
  exact congrArg (Row.mk · first.rest) hvalues

/-- Without folds the row of a group is its first one. -/
theorem foldRows_eq_firstOfEach (hfolds : ∀ fold ∈ folds, fold = none)
    (h : ∀ row ∈ rows, row.values.length = folds.length) :
    foldRows folds rows = firstOfEach (groupKey folds) rows := by
  rw [foldRows_eq, groupsBy_eq, List.map_map]
  refine (List.map_congr_left fun row hrow => ?_).trans (List.map_id _)
  have hfirst := head?_filter_of_mem_firstOfEach hrow
  obtain ⟨others, hgroup⟩ := List.head?_eq_some_iff.1 hfirst
  rw [Function.comp_apply, hgroup, mergeGroup, List.headD_cons, id_eq]
  exact mergeRows_of_unfolded hfolds (h row ((firstOfEach_sublist _ _).subset hrow)) _

/-- Rows with different keys have different texts in a field. -/
theorem exists_text_ne_of_groupKey_ne {a b : Row} (ha : a.values.length = folds.length)
    (hb : b.values.length = folds.length) (hrest : a.rest = b.rest)
    (h : groupKey folds a ≠ groupKey folds b) :
    ∃ i < folds.length,
      (a.value i).map Value.canonicalText ≠ (b.value i).map Value.canonicalText := by
  by_contra hsame
  push Not at hsame
  refine h ?_
  rw [groupKey_eq_append, groupKey_eq_append, hrest]
  refine congrArg (· ++ restKey b.rest) ((fieldsKey_eq_iff ha hb).2 fun i hi => ?_)
  exact hsame i (List.getElem?_eq_some_iff.1 hi).1

end Unfolded

namespace Node

/-- A row that holds the fields of the node and nothing else. -/
structure FieldsOnly (node : Node) (row : Row) : Prop extends node.Complete row where
  rest : row.rest = []

/-- The node reads and writes names, copies its fields, each under its own name, and does nothing
else but group by them. -/
structure Projects (node : Node) : Prop extends node.Planned where
  names : node.strategy = ⟨.name, .name⟩
  nonempty : node.fields ≠ []
  same : ∀ f ∈ node.fields, f.source = f.dest
  copies : ∀ f ∈ node.fields, f.mapper = id
  unfolded : ∀ f ∈ node.fields, f.fold? = none
  unsorted : ∀ f ∈ node.fields, f.sort = none
  remaining : node.remaining = none
  filter : node.filter = none

/-- The form of the values that a projecting node makes: objects, and lists of such values in which,
if the node groups, objects with keys of their own come first and lists follow. -/
inductive Settled (node : Node) : Value → Prop
  | record {row : Row} : node.FieldsOnly row → Settled node (node.write row)
  | list {items : List Value} : node.isGrouped = false → (∀ v ∈ items, Settled node v) →
      Settled node (.array items)
  | groups {rows : List Row} {lists : List Value} : node.isGrouped = true →
      (∀ row ∈ rows, node.FieldsOnly row) → (rows.map (groupKey node.folds)).Nodup →
      (∀ v ∈ lists, v.isArray = true) → (∀ v ∈ lists, Settled node v) →
      Settled node (.array (rows.map node.write ++ lists))

namespace Projects

variable {node : Node} (hnode : node.Projects) {row : Row} {v w : Value}
include hnode

theorem source_name : node.strategy.source = .name := by rw [hnode.names]

theorem dest_name : node.strategy.dest = .name := by rw [hnode.names]

theorem isPlain_eq : node.isPlain = !node.isGrouped := by
  rw [isPlain, sortKeys_eq_nil hnode.unsorted]
  exact Bool.and_true _

theorem passes_eq_true (v : Value) : node.passes v = true := by rw [passes, hnode.filter]

theorem write_eq (row : Row) : node.write row = .object (writeObject node.dests row) := by
  rw [write, hnode.dest_name]

theorem isArray_write (row : Row) : (node.write row).isArray = false := by
  rw [hnode.write_eq]
  rfl

/-! ### Rows -/

theorem fieldsOnly_of_extract (h : node.extract v = some row) : node.FieldsOnly row := by
  refine ⟨complete_of_extract hnode.dest_name h, ?_⟩
  rcases node.extract_cases h with ⟨-, rfl⟩ | ⟨-, -, -, ⟨-, hrest⟩ | ⟨mapper, hremaining, -⟩⟩
  · rfl
  · exact hrest
  · cases hnode.remaining.symm.trans hremaining

/-- A field reads from an object of the node what the row has for it. -/
theorem read_write (h : node.FieldsOnly row) {i : Nat} (hi : i < node.fields.length) :
    node.fields[i].mapper (node.fields[i].source.read (node.write row)) = row.value i := by
  have hfield := List.getElem_mem hi
  have hkind := hnode.dest _ hfield
  rw [hnode.copies _ hfield, hnode.same _ hfield, hnode.write_eq,
    ← h.lookup_writeObject hnode.toPlanned hi]
  cases hdest : node.fields[i].dest with
  | name name => rfl
  | position n =>
    rw [hdest, hnode.dest_name] at hkind
    cases hkind

/-- Of the object that it makes of a row, the node extracts that row again. -/
theorem extract_write (h : node.FieldsOnly row) : node.extract (node.write row) = some row := by
  have hvalues : node.fields.map (fun f => f.mapper (f.source.read (node.write row))) =
      row.values := by
    refine List.ext_getElem (by rw [List.length_map, h.length]) fun i hi hi' => ?_
    have hfield : i < node.fields.length := by simpa using hi
    rw [List.getElem_map, hnode.read_write h hfield, Row.value_eq_getElem hi']
  have hpresent : ¬row.values.any Option.isNone = true := by
    rw [List.any_eq_true]
    rintro ⟨value, hvalue, habsent⟩
    exact Option.not_isSome_iff_eq_none.2 (Option.isNone_iff_eq_none.1 habsent)
      (h.present value hvalue)
  have hrecord : (node.write row).isTerminal = false := by
    rw [hnode.write_eq]
    rfl
  rw [extract_of_record hnode.dest_name hrecord, hvalues]
  dsimp only
  rw [if_neg hpresent, hnode.remaining, Option.elim, ← h.rest]

/-- Grouping keeps the first row of those with one key. -/
theorem groupRows_eq {rows : List Row} (h : ∀ row ∈ rows, node.FieldsOnly row) :
    node.groupRows rows =
      if node.isGrouped then firstOfEach (groupKey node.folds) rows else rows := by
  have hfolds : ∀ fold ∈ node.folds, fold = none := List.forall_mem_map.2 hnode.unfolded
  rw [groupRows, foldRows_eq_firstOfEach hfolds fun row hrow => ?_]
  rw [node.length_folds, (h row hrow).length]

/-! ### Outputs -/

/-- What the node makes of a value that is no list. -/
theorem apply_of_not_isArray (hv : v.isArray = false) :
    node.apply v = (node.extract v).map node.write := by
  have hpassthrough := hnode.not_passthrough hnode.nonempty
  rw [Node.apply_of_not_isArray node hv, applyRecord, hnode.passes_eq_true, hpassthrough]
  cases h : node.extract v with
  | none => rfl
  | some row =>
    have hgroup : node.groupRows [row] = [row] := by
      rw [hnode.groupRows_eq (List.forall_mem_singleton.2 (hnode.fieldsOnly_of_extract h))]
      exact ite_self _
    simp [hgroup]

/-- Of the records of a list taken together the node makes objects with keys of their own. -/
theorem exists_applyTogether_eq (hgrouped : node.isGrouped = true) (items : List Value) :
    ∃ rows : List Row, node.applyTogether items = rows.map node.write ∧
      (∀ row ∈ rows, node.FieldsOnly row) ∧ (rows.map (groupKey node.folds)).Nodup := by
  let rows := (items.filter fun v => !v.isArray && node.passes v).filterMap node.extract
  have hrows : ∀ row ∈ rows, node.FieldsOnly row := by
    intro row hrow
    obtain ⟨v, -, hv⟩ := List.mem_filterMap.1 hrow
    exact hnode.fieldsOnly_of_extract hv
  refine ⟨firstOfEach (groupKey node.folds) rows, ?_, fun row hrow => ?_,
    nodup_keys_firstOfEach _ rows⟩
  · rw [applyTogether, sortKeys_eq_nil hnode.unsorted, sortRows_nil, hnode.groupRows_eq hrows,
      if_pos hgrouped]
  · exact hrows row ((firstOfEach_sublist _ rows).subset hrow)

theorem settled_of_not_isArray (hv : v.isArray = false) (h : node.apply v = some w) :
    node.Settled w := by
  rw [hnode.apply_of_not_isArray hv] at h
  obtain ⟨row, hrow, rfl⟩ := Option.map_eq_some_iff.1 h
  exact .record (hnode.fieldsOnly_of_extract hrow)

/-- What the node makes of a value is settled. The induction is on the value, for the sake of lists
inside a list. -/
theorem settled_of_apply (h : node.apply v = some w) : node.Settled w := by
  induction v using Value.induction generalizing w with
  | terminal v hv => exact hnode.settled_of_not_isArray (Value.isArray_of_isTerminal hv) h
  | object fields _ => exact hnode.settled_of_not_isArray rfl h
  | array items ih =>
    have hplain := hnode.isPlain_eq
    cases hgrouped : node.isGrouped with
    | false =>
      rw [hgrouped] at hplain
      rw [apply_array_of_isPlain hnode.source_name hplain] at h
      cases h
      refine .list hgrouped fun w hw => ?_
      obtain ⟨v, hv, hw⟩ := List.mem_filterMap.1 hw
      exact ih v hv hw
    | true =>
      rw [hgrouped] at hplain
      obtain ⟨rows, htogether, hrows, hnodup⟩ := hnode.exists_applyTogether_eq hgrouped items
      rw [apply_array_of_not_isPlain hnode.source_name hplain, htogether] at h
      cases h
      refine .groups hgrouped hrows hnodup (fun w hw => ?_) fun w hw => ?_
      · obtain ⟨v, hv, hw⟩ := List.mem_filterMap.1 hw
        obtain ⟨others, rfl⟩ := Value.exists_items (List.mem_filter.1 hv).2
        rw [apply_array_of_not_isPlain hnode.source_name hplain] at hw
        cases hw
        rfl
      · obtain ⟨v, hv, hw⟩ := List.mem_filterMap.1 hw
        exact ih v (List.mem_filter.1 hv).1 hw

/-! ### Fixed points -/

/-- Of its own objects with keys of their own the node makes the same objects; lists behind them
take no part. -/
theorem applyTogether_append {rows : List Row} {lists : List Value}
    (hrows : ∀ row ∈ rows, node.FieldsOnly row) (hnodup : (rows.map (groupKey node.folds)).Nodup)
    (hlists : ∀ v ∈ lists, v.isArray = true) :
    node.applyTogether (rows.map node.write ++ lists) = rows.map node.write := by
  have hrecords : (rows.map node.write ++ lists).filter (fun v => !v.isArray && node.passes v) =
      rows.map node.write := by
    refine filter_append_eq_left (List.forall_mem_map.2 fun row _ => ?_) fun v hv => ?_
    · rw [hnode.isArray_write, hnode.passes_eq_true]
      rfl
    · rw [hlists v hv]
      rfl
  have hextract : (rows.map node.write).filterMap node.extract = rows := by
    rw [List.filterMap_map]
    refine (List.filterMap_congr fun row hrow => ?_).trans List.filterMap_some
    exact hnode.extract_write (hrows row hrow)
  rw [applyTogether, hrecords, hextract, hnode.groupRows_eq hrows, firstOfEach_eq_self hnodup,
    ite_self, sortKeys_eq_nil hnode.unsorted, sortRows_nil]

/-- The node gives a settled value back. -/
theorem apply_of_settled (h : node.Settled v) : node.apply v = some v := by
  have hplain := hnode.isPlain_eq
  induction h with
  | record hrow =>
    rw [hnode.apply_of_not_isArray (hnode.isArray_write _), hnode.extract_write hrow,
      Option.map_some]
  | list hgrouped _ ih =>
    rw [hgrouped] at hplain
    rw [apply_array_of_isPlain hnode.source_name hplain, List.filterMap_congr ih,
      List.filterMap_some]
  | @groups rows lists hgrouped hrows hnodup hlists _ ih =>
    have hbehind : (rows.map node.write ++ lists).filter Value.isArray = lists := by
      rw [List.filter_append, List.filter_eq_nil_iff.2, List.filter_eq_self.2 hlists,
        List.nil_append]
      refine List.forall_mem_map.2 fun row _ => ?_
      rw [hnode.isArray_write]
      exact Bool.false_ne_true
    rw [hgrouped] at hplain
    rw [apply_array_of_not_isPlain hnode.source_name hplain,
      hnode.applyTogether_append hrows hnodup hlists, hbehind, List.filterMap_congr ih,
      List.filterMap_some]

/-- What the node makes of a value it makes of the result, too. -/
theorem apply_of_apply (h : node.apply v = some w) : node.apply w = some w :=
  hnode.apply_of_settled (hnode.settled_of_apply h)

/-! ### Distinct objects -/

/-- Objects of rows with different keys differ in a field. -/
theorem differIn_of_groupKey_ne {a b : Row} (ha : node.FieldsOnly a) (hb : node.FieldsOnly b)
    (h : groupKey node.folds a ≠ groupKey node.folds b) :
    Value.DifferIn (node.dests.map Key.text) (node.write a) (node.write b) := by
  have hlength := node.length_folds
  obtain ⟨i, hi, hne⟩ := exists_text_ne_of_groupKey_ne (ha.length.trans hlength.symm)
    (hb.length.trans hlength.symm) (ha.rest.trans hb.rest.symm) h
  have hfield := List.getElem_mem (hlength ▸ hi)
  refine ⟨_, List.mem_map_of_mem (List.mem_map_of_mem hfield), ?_⟩
  rw [hnode.write_eq, hnode.write_eq, Value.get?, Value.get?,
    ha.lookup_writeObject hnode.toPlanned, hb.lookup_writeObject hnode.toPlanned]
  exact hne

/-- In a settled value, if the node groups, any two objects of one list differ in a field. -/
theorem distinct_of_settled (hgrouped : node.isGrouped = true) (h : node.Settled v) :
    v.EveryList fun items =>
      (items.filter Value.isObject).Pairwise (Value.DifferIn (node.dests.map Key.text)) := by
  induction h with
  | record _ => exact .other (hnode.isArray_write _)
  | list hungrouped => cases hungrouped.symm.trans hgrouped
  | @groups rows lists _ hrows hnodup hlists _ ih =>
    have hobjects : (rows.map node.write ++ lists).filter Value.isObject = rows.map node.write := by
      refine filter_append_eq_left (List.forall_mem_map.2 fun row _ => ?_) fun v hv => ?_
      · rw [hnode.write_eq]
        rfl
      · obtain ⟨others, rfl⟩ := Value.exists_items (hlists v hv)
        rfl
    refine .list ?_ (List.forall_mem_append.2 ⟨List.forall_mem_map.2 fun row _ => ?_, ih⟩)
    · rw [hobjects, List.pairwise_map]
      refine (List.pairwise_map.1 hnodup).imp_of_mem fun ha hb hne => ?_
      exact hnode.differIn_of_groupKey_ne (hrows _ ha) (hrows _ hb) hne
    · exact .other (hnode.isArray_write row)

end Projects

/-! ### Plans -/

theorem mem_of_mem_fields_plan {fields : List Field} {remaining : Remaining}
    {filter : Option Test} {f : Field}
    (h : f ∈ (plan (fields.map .field) remaining filter).fields) : f ∈ fields := by
  obtain ⟨g, hg, heq⟩ := List.mem_map.1 (Kept.mem_fields h).1
  exact Entry.field.inj heq ▸ hg

/-- Of some fields the first is always planned. -/
theorem fields_plan_ne_nil {fields : List Field} (h : fields ≠ []) (remaining : Remaining)
    (filter : Option Test) : (plan (fields.map .field) remaining filter).fields ≠ [] := by
  obtain ⟨f, others, rfl⟩ := List.exists_cons_of_ne_nil h
  obtain ⟨kept, hkept⟩ := List.head?_eq_some_iff.1
    (head?_keptEntries ((f :: others).map Entry.field))
  have hfields : (plan ((f :: others).map .field) remaining filter).fields =
      (keptEntries ((f :: others).map .field)).filterMap Entry.field? :=
    (Kept.of_eq_keptFrom _ [] _).1
  rw [hfields, hkept]
  exact List.cons_ne_nil f _

section SameNames

variable {fields : List Field} (hnames : ∀ f ∈ fields, f.dest.kind = .name)
  (hsame : ∀ f ∈ fields, f.source = f.dest)
include hnames hsame

/-- Fields that keep their names are read and written by name. -/
theorem choose_map_field : Strategy.choose (fields.map .field) = ⟨.name, .name⟩ := by
  cases fields with
  | nil => rfl
  | cons f others =>
    have hname := hnames f List.mem_cons_self
    rw [List.map_cons, Strategy.choose, hsame f List.mem_cons_self, hname]

/-- Such fields, if no two have one name, are all planned. -/
theorem fields_plan_eq (hnodup : (fields.map (·.dest)).Nodup) (remaining : Remaining)
    (filter : Option Test) : (plan (fields.map .field) remaining filter).fields = fields := by
  have hkept : keptFrom (Strategy.choose (fields.map .field)) [] (fields.map .field) =
      fields.map .field := by
    refine keptFrom_eq_self (List.forall_mem_map.2 fun f hf => ?_) ?_ fun _ _ => List.not_mem_nil
    · rw [choose_map_field hnames hsame]
      exact ⟨(congrArg Key.kind (hsame f hf)).trans (hnames f hf), hnames f hf⟩
    · rw [List.map_map]
      exact hnodup
  refine (Kept.of_eq_keptFrom _ [] _).1.trans ?_
  rw [hkept, List.filterMap_map]
  exact List.filterMap_some

/-- Without other entries, a plan of such fields projects if they are copied, not folded and not
sorted by. -/
theorem projects_plan (hnonempty : fields ≠ []) (hcopies : ∀ f ∈ fields, f.mapper = id)
    (hunfolded : ∀ f ∈ fields, f.fold? = none) (hunsorted : ∀ f ∈ fields, f.sort = none) :
    (plan (fields.map .field) .unspecified none).Projects where
  toPlanned := planned_plan _ _ _
  names := choose_map_field hnames hsame
  nonempty := fields_plan_ne_nil hnonempty _ _
  same f hf := hsame f (mem_of_mem_fields_plan hf)
  copies f hf := hcopies f (mem_of_mem_fields_plan hf)
  unfolded f hf := hunfolded f (mem_of_mem_fields_plan hf)
  unsorted f hf := hunsorted f (mem_of_mem_fields_plan hf)
  remaining := by
    have hkept := fields_plan_ne_nil hnonempty .unspecified none
    exact if_neg (mt List.isEmpty_iff.1 hkept)
  filter := rfl

end SameNames

end Node

end Reshape
