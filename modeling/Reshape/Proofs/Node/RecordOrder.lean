import Reshape.Proofs.Node.GroupBy
import Reshape.Proofs.Node.Sorted
import Reshape.Proofs.Related
import Reshape.Proofs.Value.Shuffle
import Reshape.Proofs.Vocabulary.Aggregation
import Reshape.Value.Identity

/-!
# Grouping and the order of records

Groups come in the order in which their first records came, and the record of a group shows its
first record wherever it does not fold. So the order of the records does show in a grouped output.
Where all folds ignore the order of arrival it shows in nothing else: the output holds the same
objects in some order, up to the order of their fields (`Node.apply_records_perm`).

Three things are behind that. The key of a row says which group it is in whatever comes before it,
so records in another order fall into the same groups. Rows with one key, if they hold no binary64
numbers, are the same outside the folded fields up to the order of fields and of leftovers, so that
any of them can stand for the group. And a fold that ignores the order of arrival makes one value of
them all.
-/

namespace Reshape

open Value (NoFloat)

/-! ## Rows that can stand for each other -/

/-- Whether rows hold the same values, and the same leftovers in some order, up to the order of
fields in objects. -/
structure Row.Rearranged (a b : Row) : Prop where
  values : List.Forall₂ (Option.Rel Value.Rearranged) a.values b.values
  rest : ∃ zs, List.Forall₂ (fun p q => p.1.text = q.1.text ∧ Value.Rearranged p.2 q.2) a.rest zs ∧
    zs.Perm b.rest

section Rows

variable {folds : Folds} {a b : Row}

theorem Row.Rearranged.writeObject (h : a.Rearranged b) (dests : List Key) :
    (Value.object (writeObject dests a)).Rearranged (.object (Reshape.writeObject dests b)) := by
  obtain ⟨zs, hrest, hperm⟩ := h.rest
  have hleftovers : List.Forall₂ (fun p q => p.1 = q.1 ∧ Value.Rearranged p.2 q.2)
      (a.rest.map fun p => (p.1.text, p.2)) (zs.map fun p => (p.1.text, p.2)) := by
    rwa [List.forall₂_map_left_iff, List.forall₂_map_right_iff]
  refine ⟨_, Value.rearrangedFields_iff_forall₂.2 (List.rel_append
    (forall₂_filterMap_zip h.values Key.text dests) hleftovers), ?_⟩
  exact (hperm.map _).append_left _

/-- Without binary64 numbers, values with one canonical text differ in the order of fields only. -/
theorem rel_rearranged_of_canonicalText {v w : Option Value} (hv : ∀ x, v = some x → x.FloatFree)
    (hw : ∀ x, w = some x → x.FloatFree)
    (h : v.map Value.canonicalText = w.map Value.canonicalText) :
    Option.Rel Value.Rearranged v w := by
  cases v with
  | none =>
    cases w with
    | none => exact .none
    | some w => cases h
  | some v =>
    cases w with
    | none => cases h
    | some w =>
      have htext := Option.some_inj.1 h
      exact .some ((Value.canonicalText_eq_iff_rearranged (hv v rfl) (hw w rfl)).1.1 htext)

/-- A value without binary64 numbers at any depth is none itself. -/
theorem Value.Over.noFloat {v : Value} (h : v.Over NoFloat) : v.NoFloat := by
  cases v with
  | float x => exact h
  | _ => exact fun _ heq => nomatch heq

theorem Row.Over.value {T : Value → Prop} (h : a.Over T) {field : Nat} {v : Value}
    (hv : a.value field = some v) : v.Over T := by
  rw [Row.value, Option.join_eq_some_iff] at hv
  exact h.1 v (List.mem_of_getElem? hv)

/-- Leftovers with the same texts are the same up to order. -/
theorem exists_rearranged_of_restTexts {as bs : List (Key × Value)}
    (has : ∀ p ∈ as, p.2.FloatFree) (hbs : ∀ p ∈ bs, p.2.FloatFree)
    (h : (restTexts as).Perm (restTexts bs)) :
    ∃ zs, List.Forall₂ (fun p q => p.1.text = q.1.text ∧ Value.Rearranged p.2 q.2) as zs ∧
      zs.Perm bs := by
  have hpaired : List.Forall₂ (fun texts (q : Key × Value) =>
      texts = (q.1.text, q.2.canonicalText) ∧ q.2.FloatFree) (restTexts bs) bs := by
    rw [restTexts, List.forall₂_map_left_iff]
    exact List.forall₂_same.2 fun q hq => ⟨rfl, hbs q hq⟩
  obtain ⟨zs, hzs, hperm⟩ := List.perm_comp_forall₂ h hpaired
  rw [restTexts, List.forall₂_map_left_iff] at hzs
  refine ⟨zs, (forall₂_and_of_mem hzs fun p hp q hpq => ?_).imp fun _ _ hpq => hpq.2, hperm⟩
  obtain ⟨htext, hcanonical⟩ := Prod.ext_iff.1 hpq.1
  exact ⟨htext, (Value.canonicalText_eq_iff_rearranged (has p hp) hpq.2).1.1 hcanonical⟩

/-- Rows with one key have the same texts in the fields that are not folded, and the same texts of
leftovers. -/
theorem texts_of_groupKey_eq (ha : a.values.length = folds.length)
    (hb : b.values.length = folds.length) (h : groupKey folds a = groupKey folds b) :
    (∀ field : Nat, folds[field]? = some none →
        (a.value field).map Value.canonicalText = (b.value field).map Value.canonicalText) ∧
      (restTexts a.rest).Perm (restTexts b.rest) := by
  have hlength : (fieldsKey folds a.values).length = (fieldsKey folds b.values).length := by
    rw [length_fieldsKey ha, length_fieldsKey hb]
  rw [groupKey_eq_append, groupKey_eq_append] at h
  obtain ⟨hfields, hrest⟩ := List.append_inj h hlength
  exact ⟨(fieldsKey_eq_iff ha hb).1 hfields, restKey_eq_iff.1 hrest⟩

/-- The rows of permuted groups of rows with one key differ in the order of fields and leftovers
only, if all folds of the group ignore the order of arrival. -/
theorem mergeGroup_rearranged {group others : List Row} (hne : group ≠ [])
    (hperm : group.Perm others)
    (hkey : ∀ a ∈ group, ∀ b ∈ group, groupKey folds a = groupKey folds b)
    (hlength : ∀ row ∈ group, row.values.length = folds.length)
    (hover : ∀ row ∈ group, row.Over NoFloat)
    (hfolds : ∀ (field : Nat) (f : Fold), folds[field]? = some (some f) →
      f.IgnoresArrival ∧ f.Tallies (group.filterMap (·.value field))) :
    (mergeGroup folds group).Rearranged (mergeGroup folds others) := by
  obtain ⟨a, as, rfl⟩ := List.exists_cons_of_ne_nil hne
  have hne' : others ≠ [] := fun hnil => hne (hnil ▸ hperm).eq_nil
  obtain ⟨b, bs, rfl⟩ := List.exists_cons_of_ne_nil hne'
  have ha : a ∈ a :: as := List.mem_cons_self
  have hb : b ∈ a :: as := hperm.mem_iff.2 List.mem_cons_self
  obtain ⟨hfields, hrest⟩ :=
    texts_of_groupKey_eq (hlength a ha) (hlength b hb) (hkey a ha b hb)
  refine ⟨forall₂_map_same ?_, exists_rearranged_of_restTexts (hover a ha).2 (hover b hb).2 hrest⟩
  rintro ⟨fold, field⟩ hfold
  have hplace := List.mem_zipIdx_iff_getElem?.1 hfold
  cases fold with
  | none =>
    exact rel_rearranged_of_canonicalText (fun _ hv => (hover a ha).value hv)
      (fun _ hv => (hover b hb).value hv) (hfields field hplace)
  | some f =>
    obtain ⟨hf, htallies⟩ := hfolds field f hplace
    have hrun := f.run_eq_of_perm hf htallies (hperm.filterMap (·.value field))
    dsimp only
    rw [hrun]
    exact .some (Value.shuffled_refl _).rearranged

end Rows

/-! ## Nodes -/

namespace Node

/-- The rows that a node makes of the records of a list. -/
def rows (node : Node) (items : List Value) : List Row :=
  (items.filter fun v => !v.isArray && node.passes v).filterMap node.extract

/-- A node that groups objects by name and folds them in ways that ignore the order of arrival,
without sorting them. -/
structure IsTally (node : Node) : Prop where
  names : node.strategy = ⟨.name, .name⟩
  grouped : node.isGrouped = true
  unsorted : ∀ field ∈ node.fields, field.sort = none
  folds : ∀ field ∈ node.fields, ∀ f, field.fold? = some f → f.IgnoresArrival

/-- Records that a node can tally: not too many, without binary64 numbers, and with values of one
kind wherever the values of a group are compared. -/
structure Tallies (node : Node) (items : List Value) : Prop where
  length : (items.filter fun v => !v.isArray).length < 2 ^ 32
  noFloat : ∀ row ∈ node.rows items, row.Over NoFloat
  kinds : ∀ (field : Nat) (f : Fold), node.folds[field]? = some (some f) → f.keep?.isSome →
    ∀ a ∈ node.rows items, ∀ b ∈ node.rows items, groupKey node.folds a = groupKey node.folds b →
    ∀ v w, a.value field = some v → b.value field = some w → v.OfOneKind w

variable {node : Node} {items others : List Value}

theorem length_rows_le (node : Node) (items : List Value) :
    (node.rows items).length ≤ (items.filter fun v => !v.isArray).length := by
  have hrecords : items.filter (fun v => !v.isArray && node.passes v) =
      (items.filter fun v => !v.isArray).filter node.passes := by
    rw [List.filter_filter]
    exact List.filter_congr fun v _ => Bool.and_comm _ _
  rw [rows, hrecords]
  exact (List.length_filterMap_le _ _).trans List.filter_sublist.length_le

theorem length_values_of_mem_rows {row : Row} (h : row ∈ node.rows items) :
    row.values.length = node.folds.length := by
  obtain ⟨v, -, hv⟩ := List.mem_filterMap.1 h
  rw [values_of_extract hv, List.length_map, length_folds]

/-- The values that a group feeds to a fold can be fed in any order. -/
theorem Tallies.values (h : node.Tallies items) {group : List Row}
    (hgroup : group ∈ groupsBy (groupKey node.folds) (node.rows items)) {field : Nat} {f : Fold}
    (hfold : node.folds[field]? = some (some f)) :
    f.Tallies (group.filterMap (·.value field)) := by
  have hsublist := sublist_of_mem_groupsBy hgroup
  refine ⟨?_, fun v hv => ?_, fun hkeep v hv w hw => ?_⟩
  · refine Nat.lt_of_le_of_lt (List.length_filterMap_le _ _) ?_
    exact Nat.lt_of_le_of_lt (hsublist.length_le.trans (node.length_rows_le items)) h.length
  · obtain ⟨row, hrow, hv⟩ := List.mem_filterMap.1 hv
    exact ((h.noFloat row (hsublist.subset hrow)).value hv).noFloat
  · obtain ⟨a, ha, hv⟩ := List.mem_filterMap.1 hv
    obtain ⟨b, hb, hw⟩ := List.mem_filterMap.1 hw
    exact h.kinds field f hfold hkeep a (hsublist.subset ha) b (hsublist.subset hb)
      (eq_of_mem_groupsBy hgroup ha hb) v w hv hw

/-- The objects that a node writes for the records of a list taken together. -/
theorem IsTally.applyTogether_eq (hnode : node.IsTally) (items : List Value) :
    node.applyTogether items = (groupsBy (groupKey node.folds) (node.rows items)).map fun group =>
      .object (writeObject node.dests (mergeGroup node.folds group)) := by
  have hwrite : node.write = fun row => .object (writeObject node.dests row) := by
    funext row
    rw [write, hnode.names]
  rw [applyTogether, sortKeys_eq_nil hnode.unsorted, sortRows_nil, groupRows,
    if_pos hnode.grouped, foldRows_eq, List.map_map, hwrite]
  rfl

/-- The records of a list in another order give the same objects in some order, up to the order of
their fields, where a node only tallies them. -/
theorem apply_records_perm (hnode : node.IsTally) (h : node.Tallies items)
    (hperm : items.Perm others) :
    ∃ outputs outputs', node.apply (.array items) = some (.array outputs) ∧
      node.apply (.array others) = some (.array outputs') ∧
      ∃ middle, outputs.Perm middle ∧ List.Forall₂ Value.Rearranged middle outputs' := by
  have hnames : node.strategy.source = .name := by rw [hnode.names]
  have hplain : node.isPlain = false := by simp [isPlain, hnode.grouped]
  have hrows : (node.rows items).Perm (node.rows others) := (hperm.filter _).filterMap _
  obtain ⟨groups, hgroups, hpaired⟩ :=
    groupsBy_perm hrows (groupKey node.folds)
  have hmerged : List.Forall₂ Value.Rearranged
      (groups.map fun group => .object (writeObject node.dests (mergeGroup node.folds group)))
      (node.applyTogether others) := by
    rw [hnode.applyTogether_eq, List.forall₂_map_left_iff, List.forall₂_map_right_iff]
    refine (forall₂_and_of_mem hpaired fun group hgroup group' hsame => ?_).imp fun _ _ h => h.2
    have hmem := hgroups.mem_iff.2 hgroup
    have hsubset := (sublist_of_mem_groupsBy hmem).subset
    obtain ⟨first, rest, hcons⟩ := (exists_of_mem_groupsBy hmem).1
    refine Row.Rearranged.writeObject (mergeGroup_rearranged (hcons ▸ List.cons_ne_nil _ _) hsame
      (fun a ha b hb => eq_of_mem_groupsBy hmem ha hb)
      (fun row hrow => length_values_of_mem_rows (hsubset hrow))
      (fun row hrow => h.noFloat row (hsubset hrow)) fun field f hfold => ?_) node.dests
    have hfield : some (some f) = node.fields[field]?.map Field.fold? := by
      rw [← hfold, folds, List.getElem?_map]
      rfl
    obtain ⟨fieldOf, hget, hf⟩ := Option.map_eq_some_iff.1 hfield.symm
    exact ⟨hnode.folds fieldOf (List.mem_of_getElem? hget) f hf, h.values hmem hfold⟩
  have hnested : List.Forall₂ Value.Rearranged
      ((others.filter Value.isArray).filterMap node.apply)
      ((others.filter Value.isArray).filterMap node.apply) :=
    List.forall₂_same.2 fun v _ => (Value.shuffled_refl v).rearranged
  refine ⟨_, _, apply_array_of_not_isPlain hnames hplain items,
    apply_array_of_not_isPlain hnames hplain others, _, ?_, List.rel_append hmerged hnested⟩
  rw [hnode.applyTogether_eq]
  exact (hgroups.map _).append ((hperm.filter _).filterMap node.apply)

/-- Four animals in two orders, counted and weighed by species, with one kept apart in a list of its
own. The groups change places, and the leftovers of one change places within it. -/
theorem tally_of_animals_in_any_order :
    let field (dest source : String) (aggregation : Aggregation) : Entry :=
      .field ⟨.name dest, .name source, id, some aggregation, none⟩
    let node := Node.plan [field "kind" "kind" .group, field "n" "kg" (.fold .count),
      field "total" "kg" (.fold (.sum .standard)), field "most" "kg" (.fold .max)] (.copied id) none
    let cat (kg : Int64) : Value :=
      .object [("kind", .string "cat"), ("kg", .int kg), ("legs", .int 4), ("tame", .bool true)]
    let dog (kg : Int64) : Value :=
      .object [("tame", .bool true), ("kind", .string "dog"), ("kg", .int kg)]
    let turned : Value :=
      .object [("tame", .bool true), ("legs", .int 4), ("kind", .string "cat"), ("kg", .int 6)]
    let items := [cat 4, dog 30, .array [dog 9], turned]
    let others := [dog 30, turned, .array [dog 9], cat 4]
    node.IsTally ∧ node.Tallies items ∧ items.Perm others ∧
      node.apply (.array items) = some (.array [
        .object [("kind", .string "cat"), ("n", .int 2), ("total", .int 10), ("most", .int 6),
          ("legs", .int 4), ("tame", .bool true)],
        .object [("kind", .string "dog"), ("n", .int 1), ("total", .int 30), ("most", .int 30),
          ("tame", .bool true)],
        .array [.object [("kind", .string "dog"), ("n", .int 1), ("total", .int 9),
          ("most", .int 9), ("tame", .bool true)]]]) ∧
      node.apply (.array others) = some (.array [
        .object [("kind", .string "dog"), ("n", .int 1), ("total", .int 30), ("most", .int 30),
          ("tame", .bool true)],
        .object [("kind", .string "cat"), ("n", .int 2), ("total", .int 10), ("most", .int 6),
          ("tame", .bool true), ("legs", .int 4)],
        .array [.object [("kind", .string "dog"), ("n", .int 1), ("total", .int 9),
          ("most", .int 9), ("tame", .bool true)]]]) ∧
      ∃ outputs outputs', node.apply (.array items) = some (.array outputs) ∧
        node.apply (.array others) = some (.array outputs') ∧
        ∃ middle, outputs.Perm middle ∧ List.Forall₂ Value.Rearranged middle outputs' := by
  intro field node cat dog turned items others
  have hnode : node.IsTally := by
    refine ⟨rfl, rfl, by decide, fun f hf g hg => ?_⟩
    have hfolds : some g ∈ node.folds := List.mem_map.2 ⟨f, hf, hg⟩
    have hknown : node.folds = [none, some .count, some (.sum .standard), some .max] := rfl
    rw [hknown] at hfolds
    simp only [List.mem_cons, Option.some_inj, reduceCtorEq, false_or, List.not_mem_nil,
      or_false] at hfolds
    rcases hfolds with rfl | rfl | rfl
    · trivial
    · exact DecimalArithmetic.standard_exactOnWholes
    · trivial
  let row (kind : String) (kg : Int64) (rest : List (Key × Value)) : Row :=
    ⟨[some (.string kind), some (.int kg), some (.int kg), some (.int kg)], rest⟩
  have hrows : node.rows items = [
      row "cat" 4 [(.name "legs", .int 4), (.name "tame", .bool true)],
      row "dog" 30 [(.name "tame", .bool true)],
      row "cat" 6 [(.name "tame", .bool true), (.name "legs", .int 4)]] := rfl
  have htallies : node.Tallies items := by
    refine ⟨by decide, fun r hr => ?_, fun i f hf hkeep a ha b hb _ v w hv hw => ?_⟩
    · rw [hrows] at hr
      simp only [List.mem_cons, List.not_mem_nil, or_false] at hr
      rcases hr with rfl | rfl | rfl <;>
        simp [Row.Over, row, Value.Over, NoFloat]
    · have hi : i = 3 := by
        rcases i with _ | _ | _ | _ | i
        · cases hf
        · cases hf
          cases hkeep
        · cases hf
          cases hkeep
        · rfl
        · cases hf
      subst hi
      rw [hrows] at ha hb
      simp only [List.mem_cons, List.not_mem_nil, or_false] at ha hb
      rcases ha with rfl | rfl | rfl <;> cases hv <;>
        rcases hb with rfl | rfl | rfl <;> cases hw <;> exact ⟨rfl, rfl, rfl⟩
  have hperm : items.Perm others := by decide
  exact ⟨hnode, htallies, hperm, by decide, by decide,
    apply_records_perm hnode htallies hperm⟩

end Node

end Reshape
