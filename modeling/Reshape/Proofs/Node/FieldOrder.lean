import Reshape.Proofs.Node.GroupBy
import Reshape.Proofs.Node.Sorted
import Reshape.Proofs.Node.Tuple
import Reshape.Proofs.Related

/-!
# The order of a node's fields

Two nodes may differ in nothing but the order in which they hold their fields and exclusions
(`Node.Permutes`). Everything that a node lays out by field is then laid out in another order: the
values of a row, the folds, the sort keys, the destinations. Rows are therefore looked at here as
readings, which give each field its value whatever its index (`Reading`). Extracting, grouping and
sorting are the same on the readings for both nodes, so the order of fields shows in what is written
only: in the order of an object's entries, and nowhere when an array is written.
-/

namespace Reshape

/-- What a record or a group of records has for every field, and what is left over. -/
structure Reading where
  value : Field → Option Value
  rest : List (Key × Value)

/-- The row of a reading, for fields in some order. -/
def Reading.row (fields : List Field) (reading : Reading) : Row :=
  ⟨fields.map reading.value, reading.rest⟩

/-- Whether two nodes differ in the order of their fields and exclusions only. -/
structure Node.Permutes (a b : Node) : Prop where
  strategy : a.strategy = b.strategy
  fields : a.fields.Perm b.fields
  excluded : a.excluded.Perm b.excluded
  remaining : a.remaining = b.remaining
  filter : a.filter = b.filter
  passthrough : a.passthrough = b.passthrough

/-- Whether two outputs are the same but for the order of entries in their objects. What the entries
hold is the very same. -/
inductive Value.UpToEntryOrder : Value → Value → Prop
  | same (v : Value) : UpToEntryOrder v v
  | object {as bs : List (String × Value)} (h : as.Perm bs) :
    UpToEntryOrder (.object as) (.object bs)
  | array {as bs : List Value} (h : List.Forall₂ UpToEntryOrder as bs) :
    UpToEntryOrder (.array as) (.array bs)

/-! ## Extracting -/

namespace Node

variable {node a b : Node} {input : Value}

/-- The reading of a record; none when the output would be an object with a field absent. -/
def reading (node : Node) (input : Value) : Option Reading :=
  if input.isTerminal then some ⟨(·.get input), []⟩
  else if node.strategy.dest == .name && node.fields.any fun f => (f.get input).isNone then none
  else some ⟨(·.get input), node.remaining.elim [] (node.leftovers · input)⟩

theorem extract_eq_map_row (node : Node) (input : Value) :
    node.extract input = (node.reading input).map (Reading.row node.fields) := by
  cases hterminal : input.isTerminal with
  | true => simp [extract, reading, Reading.row, broadcast, Field.get, hterminal]
  | false =>
    have hget : ∀ f : Field, f.get input = f.mapper (f.source.read input) := fun f => by
      simp [Field.get, hterminal]
    simp only [extract, reading, hterminal, hget, Bool.false_eq_true, if_false, List.any_map]
    split
    case isTrue hnone =>
      rw [if_pos (by simpa [Function.comp_def] using hnone)]
      rfl
    case isFalse hall =>
      rw [if_neg (by simpa [Function.comp_def] using hall)]
      cases node.remaining <;> simp [Reading.row]

namespace Permutes

theorem dests (h : a.Permutes b) : a.dests.Perm b.dests := h.fields.map _

theorem claims (h : a.Permutes b) (key : Key) : a.claims key = b.claims key := by
  have htexts := ((h.dests.append h.excluded).map Key.text).contains_eq (a := key.text)
  have hdests := h.dests.contains_eq (a := key)
  have hexcluded := h.excluded.contains_eq (a := key)
  simp only [Node.claims, h.strategy, htexts, hdests, hexcluded]

theorem leftovers (h : a.Permutes b) (mapper : Mapper) (input : Value) :
    a.leftovers mapper input = b.leftovers mapper input := by
  have hread : ∀ key, (a.fields.map fun f => f.source.resolve input).contains key =
      (b.fields.map fun f => f.source.resolve input).contains key :=
    fun key => (h.fields.map _).contains_eq
  simp only [Node.leftovers, hread, h.claims, h.strategy]

theorem reading (h : a.Permutes b) (input : Value) : a.reading input = b.reading input := by
  simp only [Node.reading, h.strategy, h.remaining, h.leftovers, h.fields.any_eq]

theorem passes (h : a.Permutes b) (input : Value) : a.passes input = b.passes input := by
  rw [Node.passes, Node.passes, h.filter]

end Permutes

end Node

/-! ## Grouping -/

namespace Reading

variable {fields fields' : List Field} {a b : Reading}

/-- Whether two readings fall into one group. -/
def SameGroup (fields : List Field) (a b : Reading) : Prop :=
  (∀ f ∈ fields, f.fold? = none →
      (a.value f).map Value.canonicalText = (b.value f).map Value.canonicalText) ∧
    restKey a.rest = restKey b.rest

/-- The key of a reading's row. -/
def key (fields : List Field) (reading : Reading) : GroupKey :=
  groupKey (fields.map Field.fold?) (reading.row fields)

theorem fieldsKey_row (fields : List Field) (reading : Reading) :
    fieldsKey (fields.map Field.fold?) (reading.row fields).values =
      (fields.filter fun f => f.fold?.isNone).map fun f =>
        (reading.value f).map Value.canonicalText := by
  rw [fieldsKey, row, List.zip_map', List.filterMap_map, ← List.filterMap_eq_map,
    List.filterMap_filter]
  rfl

theorem key_eq_iff : key fields a = key fields b ↔ SameGroup fields a b := by
  rw [key, key, groupKey_eq_append, groupKey_eq_append, fieldsKey_row, fieldsKey_row, SameGroup]
  constructor
  · intro h
    obtain ⟨hfields, hrest⟩ := List.append_inj h (by simp)
    refine ⟨fun f hf hfold => ?_, hrest⟩
    exact List.map_inj_left.1 hfields f (List.mem_filter.2 ⟨hf, by simp [hfold]⟩)
  · rintro ⟨hfields, hrest⟩
    refine congrArg₂ _ (List.map_congr_left fun f hf => ?_) hrest
    obtain ⟨hf, hfold⟩ := List.mem_filter.1 hf
    exact hfields f hf (Option.isNone_iff_eq_none.1 hfold)

theorem SameGroup.perm_iff (h : fields.Perm fields') :
    SameGroup fields a b ↔ SameGroup fields' a b := by
  simp only [SameGroup, h.mem_iff]

/-- The reading of a group. -/
def merge (group : List Reading) : Reading :=
  let first := group.headD ⟨fun _ => none, []⟩
  { value := fun f =>
      match f.fold? with
      | some fold => some (fold.run (group.filterMap (·.value f)))
      | none => first.value f
    rest := first.rest }

theorem value_merge (first : Reading) (others : List Reading) (f : Field) :
    (merge (first :: others)).value f =
      (f.fold?.map fun fold => fold.run ((first :: others).filterMap (·.value f))).or
        (first.value f) := by
  cases h : f.fold? <;> simp [merge, h]

theorem value_row (fields : List Field) (reading : Reading) {i : Nat} {f : Field}
    (hf : fields[i]? = some f) : (reading.row fields).value i = reading.value f := by
  rw [Row.value, row, List.getElem?_map, hf]
  rfl

theorem mergeGroup_map_row (fields : List Field) {group : List Reading} (h : group ≠ []) :
    mergeGroup (fields.map Field.fold?) (group.map (row fields)) = (merge group).row fields := by
  obtain ⟨first, others, rfl⟩ := List.exists_cons_of_ne_nil h
  have hvalues : (mergeGroup (fields.map Field.fold?) ((first :: others).map (row fields))).values =
      fields.map (merge (first :: others)).value := by
    refine List.ext_getElem (by simp [mergeGroup, mergeRows]) ?_
    intro i hi hi'
    have hlength : i < fields.length := by simpa using hi'
    have hfield : fields[i]? = some fields[i] := List.getElem?_eq_getElem hlength
    have hgroup : ((first :: others).map (row fields)).filterMap (·.value i) =
        (first :: others).filterMap (·.value fields[i]) := by
      rw [List.filterMap_map]
      exact List.filterMap_congr fun reading _ => value_row fields reading hfield
    refine (Node.getElem_mergeRows (by simpa using hlength) hi).trans ?_
    rw [hgroup, List.getElem_map, List.getElem_map, value_merge, List.map_cons, List.headD_cons,
      value_row fields first hfield]
  exact congrArg (Row.mk · first.rest) hvalues

/-- The readings of some groups. -/
def groups (fields : List Field) (readings : List Reading) : List Reading :=
  (groupsBy (key fields) readings).map merge

theorem foldRows_map_row (fields : List Field) (readings : List Reading) :
    foldRows (fields.map Field.fold?) (readings.map (row fields)) =
      (groups fields readings).map (row fields) := by
  rw [foldRows_eq, groupsBy_map, groups, List.map_map, List.map_map]
  refine List.map_congr_left fun group hgroup => ?_
  obtain ⟨⟨first, others, rfl⟩, -⟩ := exists_of_mem_groupsBy hgroup
  exact mergeGroup_map_row fields (List.cons_ne_nil first others)

/-- The order of fields does not show in the groups. -/
theorem groups_eq_of_perm (h : fields.Perm fields') (readings : List Reading) :
    groups fields readings = groups fields' readings := by
  refine congrArg _ (groupsBy_congr fun a _ b _ => ?_)
  rw [key_eq_iff, key_eq_iff, SameGroup.perm_iff h]

/-! ## Sorting -/

/-- The fields to sort by with their directives, the first to compare in front. -/
def directed (fields : List Field) : List (Field × Int64) :=
  stableSort (fun p q => compare p.2.toInt.natAbs q.2.toInt.natAbs)
    (fields.filterMap fun f => f.sort.map (f, ·))

/-- The comparison of two readings on some fields, the first that tells them apart deciding. -/
def compareBy : List (Field × Int64) → Reading → Reading → Ordering
  | [], _, _ => .eq
  | (f, n) :: directives, a, b =>
    let o := compareForSort (a.value f) (b.value f)
    (if n < 0 then o.swap else o).then (compareBy directives a b)

theorem compareRows_map {fields : List Field} {directives : List ((Field × Nat) × Int64)}
    (h : ∀ p ∈ directives, fields[p.1.2]? = some p.1.1) (a b : Reading) :
    compareRows (directives.map fun p => ⟨p.1.2, p.2.toInt.natAbs, p.2 < 0⟩)
        (a.row fields) (b.row fields) =
      compareBy (directives.map fun p => (p.1.1, p.2)) a b := by
  induction directives with
  | nil => rfl
  | cons p directives ih =>
    obtain ⟨hp, hdirectives⟩ := List.forall_mem_cons.1 h
    rw [List.map_cons, List.map_cons, compareRows, compareBy, ih hdirectives,
      SortKey.compareRows, value_row fields a hp, value_row fields b hp]
    simp only [decide_eq_true_eq]

/-- Sort keys compare rows as their fields compare readings. -/
theorem compareRows_row (fields : List Field) (a b : Reading) :
    compareRows (SortKey.ofDirectives (fields.map (·.sort))) (a.row fields) (b.row fields) =
      compareBy (directed fields) a b := by
  -- A field with its index and directive gives both the sort key and the directed field.
  let indexed := fields.zipIdx.filterMap fun p => p.1.sort.map (p, ·)
  let sorted := stableSort (fun p q => compare p.2.toInt.natAbs q.2.toInt.natAbs) indexed
  have hkeys : SortKey.ofDirectives (fields.map (·.sort)) =
      sorted.map fun p => ⟨p.1.2, p.2.toInt.natAbs, p.2 < 0⟩ := by
    rw [SortKey.ofDirectives_eq, List.zipIdx_map, List.filterMap_map]
    refine Eq.trans (congrArg _ ?_) (stableSort_map _ indexed)
    simp [indexed, List.map_filterMap, SortKey.ofDirective, Function.comp_def]
  have hdirected : directed fields = sorted.map fun p => (p.1.1, p.2) := by
    rw [directed]
    refine Eq.trans (congrArg _ ?_) (stableSort_map _ indexed)
    conv_lhs => rw [← List.zipIdx_map_fst 0 fields, List.filterMap_map]
    simp [indexed, List.map_filterMap, Function.comp_def]
  rw [hkeys, hdirected]
  refine compareRows_map (fun p hp => ?_) a b
  obtain ⟨q, hq, hsort⟩ := List.mem_filterMap.1 ((stableSort_perm _ _).mem_iff.1 hp)
  obtain ⟨n, -, rfl⟩ := Option.map_eq_some_iff.1 hsort
  exact List.mem_zipIdx_iff_getElem?.1 hq

theorem sortRows_map_row (fields : List Field) (readings : List Reading) :
    sortRows (SortKey.ofDirectives (fields.map (·.sort))) (readings.map (row fields)) =
      (stableSort (compareBy (directed fields)) readings).map (row fields) := by
  rw [sortRows, stableSort_map]
  simp only [compareRows_row]

/-- Whether no two fields have one priority. -/
def DistinctPriorities (fields : List Field) : Prop :=
  ((fields.filterMap (·.sort)).map fun n => n.toInt.natAbs).Nodup

instance (fields : List Field) : Decidable (DistinctPriorities fields) :=
  inferInstanceAs (Decidable (List.Nodup _))

/-- The order of fields does not show in what is compared when priorities are distinct. -/
theorem directed_eq_of_perm (h : fields.Perm fields') (hsort : DistinctPriorities fields) :
    directed fields = directed fields' := by
  have htrans : Std.TransCmp fun p q : Field × Int64 =>
      compare p.2.toInt.natAbs q.2.toInt.natAbs :=
    inferInstanceAs (Std.TransCmp (compareOn fun p : Field × Int64 => p.2.toInt.natAbs))
  refine stableSort_eq_of_perm ?_ (h.filterMap _)
  have hpriorities : ((fields.filterMap fun f => f.sort.map (f, ·)).map fun p =>
      p.2.toInt.natAbs).Nodup := by
    simpa [DistinctPriorities, List.map_filterMap, Function.comp_def] using hsort
  intro p hp q hq htie
  exact List.inj_on_of_nodup_map hpriorities hp hq (compare_eq_iff_eq.1 htie)

end Reading

/-! ## Writing -/

section Layouts

variable {dests dests' : List Key}

theorem HasWidth.le_of_hasWidth {width width' : Nat} (h : HasWidth dests width)
    (h' : HasWidth dests width') : width ≤ width' := by
  rcases h.2 with rfl | ⟨n, hn, hwidth⟩
  · exact Nat.zero_le _
  · by_cases hnonneg : 0 ≤ n
    · have := h'.1 n hnonneg hn
      omega
    · have := mt toInt_nonneg.2 hnonneg
      omega

theorem tupleWidth_eq_of_perm (h : dests.Perm dests') : tupleWidth dests = tupleWidth dests' := by
  have hwidth := hasWidth_tupleWidth dests
  have hwidth' : HasWidth dests (tupleWidth dests') := by
    simpa only [HasWidth, h.mem_iff] using hasWidth_tupleWidth dests'
  exact Nat.le_antisymm (hwidth.le_of_hasWidth hwidth') (hwidth'.le_of_hasWidth hwidth)

theorem orderingDests_eq_of_perm (h : dests.Perm dests') (hnodup : dests.Nodup) :
    orderingDests dests = orderingDests dests' := by
  obtain ⟨hsorted, hmem⟩ := hasOrdering_orderingDests hnodup
  obtain ⟨hsorted', hmem'⟩ := hasOrdering_orderingDests (h.nodup_iff.1 hnodup)
  have hperm : (orderingDests dests).Perm (orderingDests dests') := by
    refine (List.perm_ext_iff_of_nodup (hsorted.imp Int64.ne_of_lt)
      (hsorted'.imp Int64.ne_of_lt)).2 fun n => ?_
    rw [hmem, hmem', h.mem_iff]
  refine hperm.eq_of_pairwise (fun m n _ _ hmn hnm => ?_) hsorted hsorted'
  exact absurd hmn (Int64.not_lt.2 (Int64.le_of_lt hnm))

theorem fills_eq_of_perm (h : dests.Perm dests') (key : Key) :
    (Layout.of dests).fills key = (Layout.of dests').fills key := by
  rw [Bool.eq_iff_iff, fills_of_iff, fills_of_iff, tupleWidth_eq_of_perm h]
  simp only [h.mem_iff]

end Layouts

namespace Node.Permutes

variable {a b : Node}

theorem fieldAt (h : a.Permutes b) (hnodup : a.dests.Nodup) (reading : Reading) (dest : Key) :
    a.fieldAt (reading.row a.fields) dest = b.fieldAt (reading.row b.fields) dest := by
  have hentries : ∀ node : Node, node.fieldAt (reading.row node.fields) dest =
      ((node.fields.map fun f => (f.dest, reading.value f)).lookup dest).join := by
    intro node
    rw [Node.fieldAt, Node.dests, Reading.row, List.zip_map']
  rw [hentries, hentries, lookup_eq_of_perm (h.fields.map _)]
  rw [List.map_map]
  exact hnodup

theorem valueOf (h : a.Permutes b) (hnodup : a.dests.Nodup) (reading : Reading) :
    a.valueOf (reading.row a.fields) = b.valueOf (reading.row b.fields) := by
  funext origin
  cases origin with
  | field dest => rw [Node.valueOf, Node.valueOf, h.fieldAt hnodup]
  | leftover key => rfl
  | padding => rfl

/-- A reading is written into an array without a trace of the order of fields. -/
theorem write_of_dest_position (h : a.Permutes b) (hnodup : a.dests.Nodup)
    (hdest : a.strategy.dest = .position) (reading : Reading) :
    a.write (reading.row a.fields) = b.write (reading.row b.fields) := by
  have htuple : a.tupleOrigin (reading.row a.fields) = b.tupleOrigin (reading.row b.fields) :=
    funext fun i => if_congr h.dests.mem_iff rfl rfl
  rw [Node.write_of_dest_position hdest hnodup (List.length_map _),
    Node.write_of_dest_position (h.strategy ▸ hdest) (h.dests.nodup_iff.1 hnodup)
      (List.length_map _),
    tupleOrigins, tupleOrigins, orderingOrigins, orderingOrigins, htuple, h.valueOf hnodup,
    tupleWidth_eq_of_perm h.dests, orderingDests_eq_of_perm h.dests hnodup]
  simp only [h.fieldAt hnodup, fills_eq_of_perm h.dests]
  rfl

/-- A reading is written into objects that hold the same entries. -/
theorem write_of_dest_name (h : a.Permutes b) (hdest : a.strategy.dest = .name)
    (reading : Reading) :
    (a.write (reading.row a.fields)).UpToEntryOrder (b.write (reading.row b.fields)) := by
  have hentries : ∀ node : Node, writeObject node.dests (reading.row node.fields) =
      (node.fields.filterMap fun f => (reading.value f).map fun v => (f.dest.text, v)) ++
        reading.rest.map fun p => (p.1.text, p.2) := by
    intro node
    rw [writeObject, Node.dests, Reading.row, List.zip_map', List.filterMap_map]
    rfl
  rw [write, write, ← h.strategy, hdest, hentries, hentries]
  exact .object ((h.fields.filterMap _).append_right _)

end Node.Permutes

/-! ## Applying -/

namespace Node

/-- The readings of some records, grouped if the node groups. -/
def groupReadings (node : Node) (readings : List Reading) : List Reading :=
  if node.isGrouped then Reading.groups node.fields readings else readings

theorem groupRows_map_row (node : Node) (readings : List Reading) :
    node.groupRows (readings.map (Reading.row node.fields)) =
      (node.groupReadings readings).map (Reading.row node.fields) := by
  rw [groupRows, groupReadings]
  split
  · exact Reading.foldRows_map_row node.fields readings
  · rfl

/-- The output for a reading. -/
def writeReading (node : Node) (reading : Reading) : Value := node.write (reading.row node.fields)

theorem applyRecord_eq (node : Node) (input : Value) :
    node.applyRecord input =
      if !node.passes input then none
      else if node.passthrough && input.isTerminal then some input
      else ((node.reading input).bind fun reading => (node.groupReadings [reading]).head?).map
        node.writeReading := by
  have hgroup : ∀ reading : Reading, (node.groupRows [reading.row node.fields]).head? =
      (node.groupReadings [reading]).head?.map (Reading.row node.fields) := fun reading => by
    rw [← List.head?_map, ← groupRows_map_row]
    rfl
  rw [applyRecord, extract_eq_map_row]
  cases node.reading input with
  | none => rfl
  | some reading =>
    simp only [Option.map_some, Option.bind_some, Option.bind_eq_bind, hgroup]
    cases (node.groupReadings [reading]).head? <;> rfl

theorem applyTogether_eq (node : Node) (items : List Value) :
    node.applyTogether items =
      (stableSort (Reading.compareBy (Reading.directed node.fields)) (node.groupReadings
        ((items.filter fun v => !v.isArray && node.passes v).filterMap node.reading))).map
          node.writeReading := by
  have hrows : ∀ records : List Value, records.filterMap node.extract =
      (records.filterMap node.reading).map (Reading.row node.fields) := fun records => by
    rw [List.map_filterMap]
    exact List.filterMap_congr fun v _ => node.extract_eq_map_row v
  rw [applyTogether, hrows, groupRows_map_row, sortKeys, Reading.sortRows_map_row, List.map_map]
  rfl

theorem sortKeys_eq_nil_iff {node : Node} :
    node.sortKeys = [] ↔ ∀ field ∈ node.fields, field.sort = none := by
  refine ⟨fun h field hfield => ?_, sortKeys_eq_nil⟩
  by_contra hsort
  exact sortKeys_ne_nil ⟨field, hfield, Option.isSome_iff_ne_none.2 hsort⟩ h

namespace Permutes

variable {a b : Node}

theorem isGrouped (h : a.Permutes b) : a.isGrouped = b.isGrouped := h.fields.any_eq

theorem groupReadings (h : a.Permutes b) (readings : List Reading) :
    a.groupReadings readings = b.groupReadings readings := by
  rw [Node.groupReadings, Node.groupReadings, h.isGrouped, Reading.groups_eq_of_perm h.fields]

theorem isPlain (h : a.Permutes b) : a.isPlain = b.isPlain := by
  rw [Node.isPlain, Node.isPlain, h.isGrouped, Bool.eq_iff_iff, Bool.and_eq_true, Bool.and_eq_true,
    List.isEmpty_iff, List.isEmpty_iff, sortKeys_eq_nil_iff, sortKeys_eq_nil_iff]
  simp only [h.fields.mem_iff]

/-- What two nodes make of a record is alike if what they write for a reading is. -/
theorem applyRecord {R : Value → Value → Prop} (h : a.Permutes b) (hsame : ∀ v, R v v)
    (hwrite : ∀ reading, R (a.writeReading reading) (b.writeReading reading)) (input : Value) :
    Option.Rel R (a.applyRecord input) (b.applyRecord input) := by
  rw [applyRecord_eq, applyRecord_eq, h.passes, h.passthrough, h.reading]
  simp only [h.groupReadings]
  split
  · exact .none
  · split
    · exact .some (hsame input)
    · cases ((b.reading input).bind fun reading => (b.groupReadings [reading]).head?) with
      | none => exact .none
      | some reading => exact .some (hwrite reading)

theorem applyTogether {R : Value → Value → Prop} (h : a.Permutes b)
    (hsort : Reading.DistinctPriorities a.fields)
    (hwrite : ∀ reading, R (a.writeReading reading) (b.writeReading reading))
    (items : List Value) : List.Forall₂ R (a.applyTogether items) (b.applyTogether items) := by
  have hpasses : a.passes = b.passes := funext h.passes
  have hreading : a.reading = b.reading := funext h.reading
  rw [applyTogether_eq, applyTogether_eq, hpasses, hreading, h.groupReadings,
    Reading.directed_eq_of_perm h.fields hsort]
  exact forall₂_map_same fun reading _ => hwrite reading

/-- What two nodes make of a value is alike if what they write for a reading is. -/
theorem apply_rel {R : Value → Value → Prop} (h : a.Permutes b)
    (hsort : Reading.DistinctPriorities a.fields) (hsame : ∀ v, R v v)
    (harray : ∀ as bs, List.Forall₂ R as bs → R (.array as) (.array bs))
    (hwrite : ∀ reading, R (a.writeReading reading) (b.writeReading reading)) (v : Value) :
    Option.Rel R (a.apply v) (b.apply v) := by
  have hrecord := h.applyRecord hsame hwrite
  induction v using Value.induction with
  | terminal v hv =>
    cases v with
    | array _ => cases hv
    | _ => exact hrecord _
  | array items ih =>
    have hdistributes : a.distributes = b.distributes := by
      rw [distributes, distributes, h.strategy]
    rw [apply, apply, hdistributes, h.isPlain]
    split
    · refine .some (harray _ _ ?_)
      split
      · rw [applyEach_eq_filterMap, applyEach_eq_filterMap]
        exact forall₂_filterMap_same ih
      · rw [applyArrays_eq_filterMap, applyArrays_eq_filterMap]
        refine List.rel_append (h.applyTogether hsort hwrite items) (forall₂_filterMap_same ?_)
        exact fun v hv => ih v (List.mem_of_mem_filter hv)
    · exact hrecord _
  | object fields => exact hrecord _

/-- A node that writes positions does not show the order of its fields at all. -/
theorem apply_of_dest_position (h : a.Permutes b) (hsort : Reading.DistinctPriorities a.fields)
    (hnodup : a.dests.Nodup) (hdest : a.strategy.dest = .position) (v : Value) :
    a.apply v = b.apply v := by
  have harray : ∀ as bs : List Value, List.Forall₂ Eq as bs → Value.array as = .array bs :=
    fun as bs hitems => congrArg _ (List.forall₂_eq_eq_eq ▸ hitems)
  exact eq_of_rel_eq
    (h.apply_rel hsort (fun _ => rfl) harray (h.write_of_dest_position hnodup hdest) v)

/-- A node that writes names shows it in the order of the entries that it writes. -/
theorem apply_of_dest_name (h : a.Permutes b) (hsort : Reading.DistinctPriorities a.fields)
    (hdest : a.strategy.dest = .name) (v : Value) :
    Option.Rel Value.UpToEntryOrder (a.apply v) (b.apply v) :=
  h.apply_rel hsort .same (fun _ _ => .array) (h.write_of_dest_name hdest) v

end Permutes

end Node

end Reshape
