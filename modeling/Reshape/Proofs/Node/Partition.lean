import Reshape.Proofs.Node.Grouping

/-!
# The rows that stand for groups

Folding the rows of a table leaves one row for each key, in the order in which the keys first came,
and the row of a group has the key of the group again. What it holds is told by the rows of its
group alone, wherever in the table they stand (`Row.StandsFor`).

That rows are as wide as the plan matters for the keys: a row that lacks a field has no place for it
in its key, and the row of its group has.
-/

namespace Reshape

/-- What the row of a group holds: what the first row of the group has outside the folded fields,
and in each of these what an accumulator makes of the values that the rows have there. It starts
afresh and is fed every value once, in the order of the rows; absent values it does not see. -/
structure Row.StandsFor (merged : Row) (folds : Folds) (first : Row) (group : List Row) :
    Prop where
  width : merged.values.length = folds.length
  rest : merged.rest = first.rest
  kept : ∀ field : Nat, folds[field]? = some none → merged.value field = first.value field
  folded : ∀ (field : Nat) f, folds[field]? = some (some f) →
    merged.value field =
      some ((group.filterMap (·.value field)).foldl Accumulator.add f.start).get

section Merged

variable {folds : Folds} {first : Row}

theorem value_mergeRows (folds : Folds) (first : Row) (group : List Row) (field : Nat) :
    (mergeRows folds first group).value field =
      folds[field]?.bind fun fold =>
        (fold.map fun f => f.run (group.filterMap (·.value field))).or (first.value field) := by
  simp only [Row.value, mergeRows, List.getElem?_map, List.getElem?_zipIdx, Nat.zero_add]
  cases folds[field]? with
  | none => rfl
  | some fold => cases fold <;> rfl

theorem standsFor_mergeRows (folds : Folds) (first : Row) (group : List Row) :
    (mergeRows folds first group).StandsFor folds first group where
  width := by simp [mergeRows]
  rest := rfl
  kept field hfold := by
    rw [value_mergeRows, hfold]
    rfl
  folded field f hfold := by
    rw [value_mergeRows, hfold]
    rfl

/-- A row has the key of a group as soon as it stands for it. -/
theorem Row.StandsFor.groupKey_eq {merged : Row} {group : List Row}
    (h : merged.StandsFor folds first group) (hwidth : first.values.length = folds.length) :
    groupKey folds merged = groupKey folds first := by
  have hfields : fieldsKey folds merged.values = fieldsKey folds first.values := by
    refine (fieldsKey_eq_iff h.width hwidth).2 fun field hfold => ?_
    exact congrArg (Option.map Value.canonicalText) (h.kept field hfold)
  rw [groupKey_eq_append, groupKey_eq_append, hfields, h.rest]

end Merged

variable {folds : Folds} {rows : List Row}

/-- The row of a group and the rows it is made of. -/
theorem mergeGroup_of_mem (hwidth : ∀ row ∈ rows, row.values.length = folds.length)
    {key : GroupKey} (hkey : key ∈ rows.map (groupKey folds)) :
    ∃ first others, rows.filter (groupKey folds · == key) = first :: others ∧
      groupKey folds (mergeGroup folds (first :: others)) = key := by
  obtain ⟨first, others, hgroup⟩ := List.exists_cons_of_ne_nil (filter_ne_nil_of_mem_keys hkey)
  have hfirst : first ∈ rows.filter (groupKey folds · == key) := hgroup ▸ List.mem_cons_self
  obtain ⟨hmem, hfirstKey⟩ := List.mem_filter.1 hfirst
  refine ⟨first, others, hgroup, ?_⟩
  exact ((standsFor_mergeRows folds first _).groupKey_eq (hwidth first hmem)).trans
    (beq_iff_eq.1 hfirstKey)

/-- The rows that come out of folding have the keys that went in, each once. -/
theorem map_groupKey_foldRows (hwidth : ∀ row ∈ rows, row.values.length = folds.length) :
    (foldRows folds rows).map (groupKey folds) = firstSeen (rows.map (groupKey folds)) := by
  rw [foldRows_eq, groupsBy, List.map_map, List.map_map]
  refine (List.map_congr_left fun key hkey => ?_).trans (List.map_id _)
  obtain ⟨first, others, hgroup, hmerged⟩ := mergeGroup_of_mem hwidth (mem_firstSeen.1 hkey)
  rw [Function.comp_apply, Function.comp_apply, hgroup, hmerged]
  rfl

/-- Folding partitions the rows of a table: for every key that occurs there is one row, in the order
in which the keys first occur, and it stands for the rows with that key. No rows make no row, and a
single row makes a single row. -/
theorem foldRows_partitions (folds : Folds) (rows : List Row)
    (hwidth : ∀ row ∈ rows, row.values.length = folds.length) :
    (foldRows folds rows).map (groupKey folds) = firstSeen (rows.map (groupKey folds)) ∧
      ((foldRows folds rows).map (groupKey folds)).Nodup ∧
      (∀ merged ∈ foldRows folds rows, ∃ first others,
        rows.filter (groupKey folds · == groupKey folds merged) = first :: others ∧
          merged.StandsFor folds first (first :: others)) ∧
      foldRows folds [] = [] ∧ ∀ row, ∃ merged, foldRows folds [row] = [merged] := by
  have hkeys := map_groupKey_foldRows hwidth
  refine ⟨hkeys, hkeys ▸ nodup_firstSeen _, ?_, rfl, fun row => ⟨_, rfl⟩⟩
  intro merged hmem
  rw [foldRows_eq] at hmem
  obtain ⟨group, hgroup, rfl⟩ := List.mem_map.1 hmem
  obtain ⟨key, hkey, rfl⟩ := List.mem_map.1 hgroup
  obtain ⟨first, others, hrows, hmerged⟩ := mergeGroup_of_mem hwidth (mem_firstSeen.1 hkey)
  refine ⟨first, others, ?_, ?_⟩
  · rw [hrows, hmerged, hrows]
  · rw [hrows]
    exact standsFor_mergeRows folds first (first :: others)

/-- Three animals of two kinds, one of them without a weight: the values of the dogs are collected
without the missing one, and the name is that of the first dog. -/
theorem foldRows_animals :
    let folds : Folds := [none, some .first, some .values]
    let row := fun (kind name : String) (weight : Option Value) =>
      Row.mk [some (.string kind), some (.string name), weight] []
    let rows := [row "dog" "Luna" (some (.int 10)), row "cat" "Ola" (some (.int 5)),
      row "dog" "Rex" none, row "dog" "Bobo" (some (.int 20))]
    (∀ row ∈ rows, row.values.length = folds.length) ∧
      (foldRows folds rows).map (groupKey folds) = [[some "\"dog\""], [some "\"cat\""]] ∧
      ∃ dogs cats, foldRows folds rows = [dogs, cats] ∧
        dogs.StandsFor folds rows[0] [rows[0], rows[2], rows[3]] ∧
        dogs.value 1 = some (.string "Luna") ∧
        dogs.value 2 = some (.array [.int 10, .int 20]) ∧
        cats.StandsFor folds rows[1] [rows[1]] := by
  intro folds row rows
  have hwidth : ∀ row ∈ rows, row.values.length = folds.length := by
    simp [rows, row, folds]
  have hkeys : (foldRows folds rows).map (groupKey folds) =
      [[some "\"dog\""], [some "\"cat\""]] := by decide +kernel
  obtain ⟨-, -, hstands, -, -⟩ := foldRows_partitions folds rows hwidth
  obtain ⟨dogs, cats, hrows, hdogs, hcats⟩ : ∃ dogs cats, foldRows folds rows = [dogs, cats] ∧
      groupKey folds dogs = [some "\"dog\""] ∧ groupKey folds cats = [some "\"cat\""] := by
    obtain ⟨dogs, rest, hrows, hdogs, hrest⟩ := List.map_eq_cons_iff.1 hkeys
    obtain ⟨cats, rest', rfl, hcats, hrest'⟩ := List.map_eq_cons_iff.1 hrest
    obtain rfl := List.map_eq_nil_iff.1 hrest'
    exact ⟨dogs, cats, hrows, hdogs, hcats⟩
  have hdog : rows.filter (groupKey folds · == [some "\"dog\""]) = [rows[0], rows[2], rows[3]] := by
    rfl
  have hcat : rows.filter (groupKey folds · == [some "\"cat\""]) = [rows[1]] := by rfl
  obtain ⟨first, others, hgroup, hdogs'⟩ := hstands dogs (by simp [hrows])
  obtain ⟨first', others', hgroup', hcats'⟩ := hstands cats (by simp [hrows])
  rw [hdogs, hdog] at hgroup
  rw [hcats, hcat] at hgroup'
  cases hgroup
  cases hgroup'
  refine ⟨hwidth, hkeys, dogs, cats, hrows, hdogs', ?_, ?_, hcats'⟩
  · exact hdogs'.folded 1 .first rfl
  · exact hdogs'.folded 2 .values rfl

end Reshape
