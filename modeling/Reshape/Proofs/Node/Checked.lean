import Reshape.Proofs.Node.Columns
import Reshape.Proofs.Node.Grouping
import Reshape.Proofs.Node.Slots
import Reshape.Proofs.Node.Sorted

/-!
# Running a node with checked indices

A `CheckedNode` runs as a `Node` does, with its fields in columns, its destinations in a table of
slots, and every index checked: that of a slot when the table is filled and when it is asked whether
a leftover is claimed, that of a field when a row is written, and that of the field of each sort key
in every row that is sorted. Rows are grouped by going through the columns side by side.

A node built from entries holds what `Node.plan` plans (`CheckedNode.build_eq_ok`), its columns and
rows are all as long as it has fields (`CheckedNode.Aligned`), and a run takes no index out of range
and gives what the planned node gives (`Node.apply_checked`).
-/

namespace Reshape

/-! ## Rows -/

/-- What a group makes of the value that its first row has for a field. -/
def foldValue (group : List Row) : Option Fold × Nat → Option Value → Option Value
  | (some f, field), _ => some (f.run (group.filterMap (·.value field)))
  | (none, _), value => value

/-- The row of a group with a first row, folds and values side by side. -/
def zipRows (folds : Folds) (first : Row) (group : List Row) : Row :=
  ⟨List.zipWith (foldValue group) folds.zipIdx first.values, first.rest⟩

/-- The comparison of two rows by the values that they have for sort keys. -/
def compareShown : List SortKey → List (Option Value) → List (Option Value) → Ordering
  | key :: keys, a :: as, b :: bs =>
    let o := compareForSort a b
    (if key.descending then o.swap else o).then (compareShown keys as bs)
  | _, _, _ => .eq

/-- Rows in the order of some sort keys. Which rows a sort compares, and on how many keys, is left
open: every row is read at every key. -/
def sortChecked (keys : List SortKey) (rows : List Row) : Checked (List Row) := do
  let read ← rows.mapM fun row => do
    let values ← keys.mapM fun key => fetch row.values key.field
    return (values, row)
  return (stableSort (fun a b => compareShown keys a.1 b.1) read).map (·.2)

section Rows

variable {folds : Folds} {keys : List SortKey} {rows : List Row}

/-- Side by side, folds and values of the same length make the row of the group. -/
theorem zipRows_eq {first : Row} (h : first.values.length = folds.length) (group : List Row) :
    zipRows folds first group = mergeRows folds first group := by
  refine congrArg (Row.mk · _) (List.ext_getElem (by simp [h]) fun i hi _ => ?_)
  have hfield : i < first.values.length := by
    rw [List.length_zipWith] at hi
    omega
  simp only [List.getElem_zipWith, List.getElem_zipIdx, List.getElem_map, Nat.zero_add]
  have hfold : i < folds.length := h ▸ hfield
  cases folds[i] with
  | some f => rfl
  | none => exact (Row.value_eq_getElem hfield).symm

theorem compareShown_eq (keys : List SortKey) (a b : Row) :
    compareShown keys (keys.map (a.value ·.field)) (keys.map (b.value ·.field)) =
      compareRows keys a b := by
  induction keys with
  | nil => rfl
  | cons key keys ih =>
    rw [List.map_cons, List.map_cons, compareShown, compareRows, ih]
    rfl

/-- Rows that have a value for every sort key are sorted in range. -/
theorem sortChecked_eq_ok (h : ∀ row ∈ rows, ∀ key ∈ keys, key.field < row.values.length) :
    sortChecked keys rows = .ok (sortRows keys rows) := by
  let shown (row : Row) : List (Option Value) × Row := (keys.map (row.value ·.field), row)
  have hread : rows.mapM (fun row => do
      let values ← keys.mapM fun key => fetch row.values key.field
      return (values, row)) = Except.ok (ε := OutOfRange) (rows.map shown) := by
    refine mapM_eq_ok fun row hrow => ?_
    have hvalues : keys.mapM (fun key => fetch row.values key.field) =
        .ok (keys.map (row.value ·.field)) := by
      refine mapM_eq_ok fun key hkey => fetch_eq_ok.2 ?_
      rw [Row.value_eq_getElem (h row hrow key hkey)]
      exact List.getElem?_eq_getElem _
    rw [hvalues]
    rfl
  have hsorted : stableSort (fun a b => compareShown keys a.1 b.1) (rows.map shown) =
      (sortRows keys rows).map shown := by
    rw [stableSort_map, sortRows]
    simp only [shown, compareShown_eq]
  have hrows : ((sortRows keys rows).map shown).map (·.2) = sortRows keys rows := by
    rw [List.map_map]
    exact List.map_id _
  rw [sortChecked, hread, ← hrows, ← hsorted]
  rfl

end Rows

/-! ## Nodes -/

/-- A node whose fields are columns and whose indices are checked. -/
structure CheckedNode where
  strategy : Strategy
  columns : Columns
  remaining : Option CheckedMapper
  filter : Option Test
  passthrough : Bool
  /-- The fold of each field, if the node groups. -/
  grouping : Option Folds
  sortKeys : List SortKey
  writer : Writer

/-- How leftovers are copied, if they are; without a field they are copied unless said otherwise. -/
def CheckedRemaining.mapper? (silent : Bool) : CheckedRemaining → Option CheckedMapper
  | .copied m => some m
  | .dropped => none
  | .unspecified => if silent then some (Mapper.checked id) else none

/-- Whether terminal values are handed through. -/
def CheckedRemaining.handsThrough (silent filtered : Bool) : CheckedRemaining → Bool
  | .unspecified => silent && filtered
  | _ => false

/-- The fold of each field, if some field has an aggregation directive. -/
def foldsOf (aggregations : List (Option Aggregation)) : Option Folds :=
  if aggregations.all Option.isNone then none
  else some (aggregations.map (·.bind Aggregation.fold?))

namespace CheckedNode

/-- The node with some columns. -/
def ofColumns (strategy : Strategy) (columns : Columns) (remaining : CheckedRemaining)
    (filter : Option Test) : Checked CheckedNode := do
  let writer ← Writer.new strategy.dest columns.dests columns.excluded
  return {
    strategy := strategy
    columns := columns
    remaining := remaining.mapper? columns.readers.isEmpty
    filter := filter
    passthrough := remaining.handsThrough columns.readers.isEmpty filter.isSome
    grouping := foldsOf columns.aggregations
    sortKeys := SortKey.ofDirectives columns.directives
    writer := writer }

/-- The node for some entries. -/
def build (entries : List CheckedEntry) (remaining : CheckedRemaining) (filter : Option Test) :
    Checked CheckedNode :=
  let strategy := CheckedEntry.strategy entries
  ofColumns strategy (Columns.empty.extend strategy [] entries) remaining filter

/-- The entries of a record that no field reads and nothing claims, mapped. -/
def leftovers (node : CheckedNode) (mapper : CheckedMapper) (input : Value) :
    Checked (List (Key × Value)) :=
  let read := node.columns.readers.map fun reader => reader.1.resolve input
  (node.strategy.source.entries input).filterMapM fun entry => do
    if read.contains entry.1 then return none
    else
      let claimed ← node.writer.claims entry.1
      if claimed then return none
      else
        let v ← mapper (some entry.2)
        return v.map (entry.1, ·)

/-- The row of a record; none when the output would be an object with a field absent. -/
def extract (node : CheckedNode) (input : Value) : Checked (Option Row) :=
  if input.isTerminal then do
    let values ← node.columns.readers.mapM fun reader => do
      let v ← reader.2 (some input)
      return v.or (some .null)
    return some ⟨values, []⟩
  else do
    let values ← node.columns.readers.mapM fun reader => reader.2 (reader.1.read input)
    if node.strategy.dest == .name && values.any Option.isNone then return none
    else
      match node.remaining with
      | some mapper => do
        let rest ← node.leftovers mapper input
        return some ⟨values, rest⟩
      | none => return some ⟨values, []⟩

/-- The rows of a list, grouped if the node groups. -/
def groupRows (node : CheckedNode) (rows : List Row) : List Row :=
  match node.grouping with
  | some folds =>
    (groupsBy (groupKey folds) rows).map fun group => zipRows folds (group.headD ⟨[], []⟩) group
  | none => rows

def passes (node : CheckedNode) (input : Value) : Bool :=
  match node.filter with
  | some test => test (some input)
  | none => true

def distributes (node : CheckedNode) : Bool := node.strategy.source == .name

/-- The output for one record. -/
def applyRecord (node : CheckedNode) (input : Value) : Checked (Option Value) :=
  if !node.passes input then .ok none
  else if node.passthrough && input.isTerminal then .ok (some input)
  else do
    match ← node.extract input with
    | none => return none
    | some row =>
      match (node.groupRows [row]).head? with
      | none => return none
      | some row => some <$> node.writer.write row

/-- The outputs for the records of a list taken together: grouped, then sorted. -/
def applyTogether (node : CheckedNode) (items : List Value) : Checked (List Value) := do
  let records := items.filter fun v => !v.isArray && node.passes v
  let rows ← records.filterMapM node.extract
  let rows ← sortChecked node.sortKeys (node.groupRows rows)
  rows.mapM node.writer.write

mutual

/-- The output for a value. -/
def apply (node : CheckedNode) : Value → Checked (Option Value)
  | .array items =>
    if node.distributes then
      if node.grouping.isNone && node.sortKeys.isEmpty then do
        let outputs ← node.applyEach items
        return some (.array outputs)
      else do
        let outputs ← node.applyTogether items
        let nested ← node.applyArrays items
        return some (.array (outputs ++ nested))
    else node.applyRecord (.array items)
  | v => node.applyRecord v

/-- The outputs for the elements of a list, one by one. -/
def applyEach (node : CheckedNode) : List Value → Checked (List Value)
  | [] => .ok []
  | v :: vs => do
    let output ← node.apply v
    let outputs ← node.applyEach vs
    return output.toList ++ outputs

/-- The outputs for the elements of a list that are arrays. -/
def applyArrays (node : CheckedNode) : List Value → Checked (List Value)
  | [] => .ok []
  | v :: vs =>
    if v.isArray then do
      let output ← node.apply v
      let outputs ← node.applyArrays vs
      return output.toList ++ outputs
    else node.applyArrays vs

end

end CheckedNode

/-- A node in columns. -/
def Node.checked (node : Node) : CheckedNode where
  strategy := node.strategy
  columns := Columns.empty.append node.fields node.excluded
  remaining := node.remaining.map Mapper.checked
  filter := node.filter
  passthrough := node.passthrough
  grouping := if node.isGrouped then some node.folds else none
  sortKeys := node.sortKeys
  writer :=
    match node.strategy.dest with
    | .name => .object node.dests node.excluded
    | .position => .array (slotsOf node.dests) (tupleWidth node.dests) node.excluded

theorem CheckedRemaining.mapper?_checked (entries : List Entry) (remaining : Remaining)
    (filter : Option Test) :
    remaining.checked.mapper? (Node.plan entries remaining filter).fields.isEmpty =
      (Node.plan entries remaining filter).remaining.map Mapper.checked := by
  cases remaining with
  | unspecified =>
    have hplan : (Node.plan entries .unspecified filter).remaining =
        if (Node.plan entries .unspecified filter).fields.isEmpty then some id else none := rfl
    rw [hplan]
    cases (Node.plan entries .unspecified filter).fields.isEmpty <;> rfl
  | dropped => rfl
  | copied m => rfl

/-- There are folds for the fields of a node exactly if it groups. -/
theorem foldsOf_eq (node : Node) : foldsOf (node.fields.map (·.aggregation)) =
    if node.isGrouped then some node.folds else none := by
  have hgrouped : (node.fields.map (·.aggregation)).all Option.isNone = !node.isGrouped := by
    simp [Node.isGrouped, List.all_eq_not_any_not, List.any_map, Function.comp_def]
  rw [foldsOf, hgrouped, Node.folds, List.map_map]
  cases node.isGrouped <;> rfl

/-- Building a node takes no index out of range, and what is built is the planned node. -/
theorem CheckedNode.build_eq_ok (entries : List Entry) (remaining : Remaining)
    (filter : Option Test) :
    build (entries.map Entry.checked) remaining.checked filter =
      .ok (Node.plan entries remaining filter).checked := by
  let node := Node.plan entries remaining filter
  have hnode : node.Planned := Node.planned_plan entries remaining filter
  have hcolumns : Columns.empty.extend (Strategy.choose entries) [] (entries.map Entry.checked) =
      Columns.empty.append node.fields node.excluded := Columns.extend_eq _ _ _ _
  have hsilent : (Columns.empty.append node.fields node.excluded).readers.isEmpty =
      node.fields.isEmpty := List.isEmpty_map
  have hwriter : Writer.new node.strategy.dest node.dests node.excluded =
      .ok node.checked.writer := by
    rw [Node.checked]
    cases node.strategy.dest with
    | name => rfl
    | position => exact Writer.new_eq_ok hnode.nodup
  have hremaining : remaining.checked.mapper? node.fields.isEmpty =
      node.remaining.map Mapper.checked := CheckedRemaining.mapper?_checked entries remaining filter
  have hpassthrough :
      remaining.checked.handsThrough node.fields.isEmpty filter.isSome = node.passthrough := by
    cases remaining <;> rfl
  rw [build, CheckedEntry.strategy_map, hcolumns, ofColumns, hsilent, Node.checked]
  refine (congrArg (· >>= _) hwriter).trans (congrArg Except.ok ?_)
  rw [CheckedNode.mk.injEq]
  exact ⟨rfl, rfl, hremaining, rfl, hpassthrough, foldsOf_eq node, rfl, rfl⟩

/-! ## Runs -/

namespace Node

variable {node : Node}

theorem claims_checked (node : Node) (key : Key) :
    node.checked.writer.claims key = .ok (node.claims key) := by
  rw [checked]
  cases hdest : node.strategy.dest with
  | name => simp only [Writer.claims, claims, hdest]
  | position => exact Writer.claims_eq_ok hdest key

theorem leftovers_checked (node : Node) (mapper : Mapper) (input : Value) :
    node.checked.leftovers (Mapper.checked mapper) input = .ok (node.leftovers mapper input) := by
  have hread : (node.checked.columns.readers.map fun reader => reader.1.resolve input) =
      node.fields.map fun f => f.source.resolve input := List.map_map
  rw [CheckedNode.leftovers, hread, leftovers]
  refine filterMapM_eq_ok ?_
  rintro ⟨key, v⟩ -
  rw [claims_checked]
  dsimp only
  cases (node.fields.map fun f => f.source.resolve input).contains key with
  | true => rfl
  | false => cases node.claims key <;> rfl

theorem readers_checked (node : Node) : node.checked.columns.readers =
    node.fields.map fun f => (f.source, Mapper.checked f.mapper) := rfl

/-- A record is read in range, into the row that the planned node extracts. -/
theorem extract_checked (node : Node) (input : Value) :
    node.checked.extract input = .ok (node.extract input) := by
  have hbroadcast : (node.checked.columns.readers.mapM fun reader => do
        let v ← reader.2 (some input)
        return v.or (some .null)) =
      Except.ok (ε := OutOfRange) (node.broadcast input).values := by
    rw [readers_checked, List.mapM_map]
    exact mapM_eq_ok fun f _ => rfl
  have hvalues : (node.checked.columns.readers.mapM fun reader =>
        reader.2 (reader.1.read input)) =
      .ok (node.fields.map fun f => f.mapper (f.source.read input)) := by
    rw [readers_checked, List.mapM_map]
    exact mapM_eq_ok fun f _ => rfl
  have hremaining : node.checked.remaining = node.remaining.map Mapper.checked := rfl
  rw [CheckedNode.extract, hbroadcast, hvalues, hremaining, extract]
  split
  · rfl
  · simp only [bind, Except.bind]
    have hstrategy : node.checked.strategy = node.strategy := rfl
    rw [hstrategy]
    split
    · rfl
    · cases node.remaining with
      | none => rfl
      | some mapper =>
        simp only [Option.map_some, leftovers_checked]
        rfl

/-! ### Rows of a node -/

theorem length_values_of_extract {input : Value} {row : Row} (h : node.extract input = some row) :
    row.values.length = node.fields.length := by
  rw [values_of_extract h, List.length_map]

theorem length_values_of_mem_groupRows {rows : List Row}
    (h : ∀ row ∈ rows, row.values.length = node.fields.length) :
    ∀ row ∈ node.groupRows rows, row.values.length = node.fields.length := by
  intro row hrow
  rw [groupRows] at hrow
  split at hrow
  · rw [foldRows_eq] at hrow
    obtain ⟨group, -, rfl⟩ := List.mem_map.1 hrow
    simp [mergeGroup, mergeRows, folds]
  · exact h row hrow

/-- Rows with a value for each field are grouped side by side as the planned node groups them. -/
theorem groupRows_checked {rows : List Row}
    (h : ∀ row ∈ rows, row.values.length = node.fields.length) :
    node.checked.groupRows rows = node.groupRows rows := by
  rw [CheckedNode.groupRows, checked, groupRows]
  cases node.isGrouped with
  | false => rfl
  | true =>
    dsimp only
    rw [foldRows_eq]
    refine List.map_congr_left fun group hgroup => zipRows_eq ?_ group
    obtain ⟨⟨first, others, rfl⟩, hsubset⟩ := exists_of_mem_groupsBy hgroup
    exact (h first (hsubset List.mem_cons_self)).trans (List.length_map _).symm

theorem sortChecked_checked {rows : List Row}
    (h : ∀ row ∈ rows, row.values.length = node.fields.length) :
    sortChecked node.sortKeys rows = .ok (sortRows node.sortKeys rows) := by
  refine sortChecked_eq_ok fun row hrow key hkey => ?_
  obtain ⟨f, n, hf, -⟩ := mem_sortKeys.1 hkey
  rw [h row hrow]
  exact (List.getElem?_eq_some_iff.1 hf.1).1

/-- A row with a value for each field is written in range, as the planned node writes it. -/
theorem write_checked (hnode : node.Planned) {row : Row}
    (h : row.values.length = node.fields.length) :
    node.checked.writer.write row = .ok (node.write row) := by
  have hvalues : row.values.length = node.dests.length := h.trans (List.length_map _).symm
  rw [checked]
  cases hdest : node.strategy.dest with
  | name => simp only [Writer.write, write, hdest]
  | position =>
    simp only [Writer.write_eq_ok hnode.nodup (fun _ => hnode.exists_position hdest)
      hvalues, write, hdest]

/-! ### Values -/

theorem applyRecord_checked (hnode : node.Planned) (input : Value) :
    node.checked.applyRecord input = .ok (node.applyRecord input) := by
  have hpasses : node.checked.passes input = node.passes input := rfl
  have hpassthrough : node.checked.passthrough = node.passthrough := rfl
  rw [CheckedNode.applyRecord, applyRecord, extract_checked, hpasses, hpassthrough]
  split
  · rfl
  · split
    · rfl
    · cases hrow : node.extract input with
      | none => rfl
      | some row =>
        have hlength : ∀ row' ∈ [row], row'.values.length = node.fields.length := by
          rintro row' hrow'
          exact List.mem_singleton.1 hrow' ▸ length_values_of_extract hrow
        simp only [bind, Except.bind, Option.bind_some, groupRows_checked hlength]
        cases hgrouped : (node.groupRows [row]).head? with
        | none => rfl
        | some grouped =>
          have hmem := List.mem_of_head? hgrouped
          simp only [write_checked hnode (length_values_of_mem_groupRows hlength grouped hmem)]
          rfl

theorem applyTogether_checked (hnode : node.Planned) (items : List Value) :
    node.checked.applyTogether items = .ok (node.applyTogether items) := by
  let records := items.filter fun v => !v.isArray && node.passes v
  have hrecords : (items.filter fun v => !v.isArray && node.checked.passes v) = records := rfl
  have hextracted : records.filterMapM node.checked.extract =
      .ok (records.filterMap node.extract) := filterMapM_eq_ok fun v _ => node.extract_checked v
  have hlength : ∀ row ∈ records.filterMap node.extract,
      row.values.length = node.fields.length := by
    intro row hrow
    obtain ⟨v, -, hv⟩ := List.mem_filterMap.1 hrow
    exact length_values_of_extract hv
  -- Neither grouping nor sorting changes how long the rows are.
  have hgrouped := length_values_of_mem_groupRows hlength
  have hwritten : (sortRows node.sortKeys (node.groupRows (records.filterMap node.extract))).mapM
      node.checked.writer.write = .ok (node.applyTogether items) := by
    refine mapM_eq_ok fun row hrow => write_checked hnode (hgrouped row ?_)
    exact (stableSort_perm _ _).mem_iff.1 hrow
  rw [CheckedNode.applyTogether, hrecords, hextracted, ← hwritten]
  simp only [bind, Except.bind, groupRows_checked hlength]
  exact congrArg (Except.bind · _) (sortChecked_checked hgrouped)

mutual

/-- A run of the node takes no index out of range, and gives what the planned node gives. -/
theorem apply_checked (hnode : node.Planned) (v : Value) :
    node.checked.apply v = .ok (node.apply v) := by
  cases v with
  | array items =>
    have hdistributes : node.checked.distributes = node.distributes := rfl
    have hplain : (node.checked.grouping.isNone && node.checked.sortKeys.isEmpty) =
        node.isPlain := by
      rw [checked, isPlain]
      cases node.isGrouped <;> rfl
    rw [CheckedNode.apply, hdistributes, hplain, apply, applyRecord_checked hnode,
      applyEach_checked hnode items, applyTogether_checked hnode items,
      applyArrays_checked hnode items]
    split
    · split <;> rfl
    · rfl
  | _ => exact applyRecord_checked hnode _

theorem applyEach_checked (hnode : node.Planned) (items : List Value) :
    node.checked.applyEach items = .ok (node.applyEach items) := by
  cases items with
  | nil => rfl
  | cons v items =>
    rw [CheckedNode.applyEach, apply_checked hnode v, applyEach_checked hnode items]
    rfl

theorem applyArrays_checked (hnode : node.Planned) (items : List Value) :
    node.checked.applyArrays items = .ok (node.applyArrays items) := by
  cases items with
  | nil => rfl
  | cons v items =>
    rw [CheckedNode.applyArrays, apply_checked hnode v, applyArrays_checked hnode items,
      applyArrays]
    split <;> rfl

end

end Node

/-! ## Alignment -/

/-- The rows that a node works on: those it extracts, those of terminal values among them, and those
it makes of groups of its rows. -/
inductive CheckedNode.HasRow (node : CheckedNode) : Row → Prop where
  | extracted {input : Value} {row : Row} (h : node.extract input = .ok (some row)) :
    HasRow node row
  | grouped {rows : List Row} {row : Row} (h : ∀ r ∈ rows, HasRow node r)
    (hrow : row ∈ node.groupRows rows) : HasRow node row

/-- Whether a writer is one for a number of fields. A table of slots holds the index of every field
exactly once, and no tuple has more than 65536 places. -/
def Writer.IsFor (fields : Nat) : Writer → Prop
  | .object dests _ => dests.length = fields
  | .array slots tupleLength _ =>
    slots.reduceOption.Perm (List.range fields) ∧ tupleLength ≤ slots.length ∧
      tupleLength ≤ 65536

/-- Whether everything that a node holds for its fields has one member for each of them. -/
structure CheckedNode.Aligned (node : CheckedNode) : Prop where
  dests : node.columns.dests.length = node.columns.readers.length
  aggregations : node.columns.aggregations.length = node.columns.readers.length
  directives : node.columns.directives.length = node.columns.readers.length
  folds : ∀ folds, node.grouping = some folds → folds.length = node.columns.readers.length
  sortKeys : ∀ key ∈ node.sortKeys, key.field < node.columns.readers.length
  writer : node.writer.IsFor node.columns.readers.length
  rows : ∀ row, node.HasRow row → row.values.length = node.columns.readers.length

namespace Node

variable {node : Node}

theorem length_readers_checked (node : Node) :
    node.checked.columns.readers.length = node.fields.length := List.length_map _

theorem length_values_of_hasRow {row : Row} (h : node.checked.HasRow row) :
    row.values.length = node.fields.length := by
  induction h with
  | extracted h =>
    rw [extract_checked] at h
    exact length_values_of_extract (Except.ok.inj h)
  | grouped _ hrow ih =>
    rw [groupRows_checked ih] at hrow
    exact length_values_of_mem_groupRows ih _ hrow

theorem tupleWidth_le {dests : List Key} {limit : Nat}
    (h : ∀ dest ∈ dests, dest.tupleLength ≤ limit) : tupleWidth dests ≤ limit := by
  obtain ⟨-, -, hreached⟩ := foldl_max_tupleLength dests 0
  rcases hreached with hzero | ⟨dest, hdest, hwidth⟩
  · exact (Nat.le_of_eq hzero).trans (Nat.zero_le limit)
  · exact (Nat.le_of_eq hwidth).trans (h dest hdest)

/-- A planned node whose destinations are within a tuple is aligned. -/
theorem aligned_checked (hnode : node.Planned)
    (htuple : ∀ dest ∈ node.dests, dest.tupleLength ≤ 65536) : node.checked.Aligned where
  dests := by simp [checked, Columns.append, Columns.empty]
  aggregations := by simp [checked, Columns.append, Columns.empty]
  directives := by simp [checked, Columns.append, Columns.empty]
  folds folds h := by
    obtain ⟨-, h⟩ := Option.ite_none_right_eq_some.1 h
    rw [← Option.some.inj h, length_readers_checked]
    exact List.length_map _
  sortKeys key hkey := by
    obtain ⟨f, n, hf, -⟩ := mem_sortKeys.1 hkey
    rw [length_readers_checked]
    exact (List.getElem?_eq_some_iff.1 hf.1).1
  writer := by
    rw [length_readers_checked, checked]
    cases hdest : node.strategy.dest with
    | name => exact List.length_map _
    | position =>
      have hlength : node.dests.length = node.fields.length := List.length_map _
      refine ⟨?_, ?_, tupleWidth_le htuple⟩
      · rw [← hlength]
        exact reduceOption_slotsOf_perm hnode.nodup fun _ => hnode.exists_position hdest
      · rw [slotsOf, List.length_append, length_tuple]
        exact Nat.le_add_right _ _
  rows row h := (length_values_of_hasRow h).trans node.length_readers_checked.symm

/-- A node planned for entries with such destinations is aligned. -/
theorem aligned_plan {entries : List Entry} (h : ∀ entry ∈ entries, entry.dest.tupleLength ≤ 65536)
    (remaining : Remaining) (filter : Option Test) :
    (Node.plan entries remaining filter).checked.Aligned := by
  refine aligned_checked (planned_plan entries remaining filter) fun dest hdest => ?_
  obtain ⟨f, hf, rfl⟩ := List.mem_map.1 hdest
  exact h _ (Kept.mem_fields hf).1

end Node

end Reshape
