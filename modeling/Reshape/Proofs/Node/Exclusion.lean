import Reshape.Proofs.Node.Tuple

/-!
# Exclusions of positions

An exclusion names a position that the leftovers of a list must not use. The leftovers are under the
positions from zero up, so an exclusion from zero up leaves out the element that it names, in every
list. One that counts from the end is none of these positions: the node makes of every value what it
makes without it (`Node.apply_without`). Reading is not like that; a field that reads a position
from the end does take the element that it names out of the leftovers.

Both are one law in `Node.exclusion_removes_unless_from_end`, as an exact condition on the position.
-/

namespace Reshape

namespace Node

/-- The node without the exclusion of a position. -/
def without (node : Node) (k : Int64) : Node :=
  { node with excluded := node.excluded.filter (· ≠ .position k) }

variable {node : Node} {k : Int64}

theorem mem_excluded_without {key : Key} :
    key ∈ (node.without k).excluded ↔ key ∈ node.excluded ∧ key ≠ .position k := by
  rw [without, List.mem_filter, decide_eq_true_iff]

/-- An element of a list is dropped for one of the reasons there are without an exclusion, or it is
the one at the excluded position. -/
theorem drops_iff_without (hk : .position k ∈ node.excluded) {length i : Nat} :
    node.Drops length i ↔ Int64.ofNat i = k ∨ (node.without k).Drops length i := by
  have hexcluded : .position (Int64.ofNat i) ∈ node.excluded ↔
      Int64.ofNat i = k ∨ .position (Int64.ofNat i) ∈ (node.without k).excluded := by
    rw [mem_excluded_without, ne_eq, Key.position.injEq]
    by_cases hi : Int64.ofNat i = k
    · simp [hi, hk]
    · simp [hi]
  have hfields : (node.without k).fields = node.fields := rfl
  have hdests : (node.without k).dests = node.dests := rfl
  rw [Drops, Drops, hexcluded, hfields, hdests, or_assoc, or_left_comm]

theorem claims_without (hdest : node.strategy.dest = .position) {key : Key}
    (hkey : key ≠ .position k) : (node.without k).claims key = node.claims key := by
  have hdest' : (node.without k).strategy.dest = .position := hdest
  have hexcluded : (node.without k).excluded.contains key = node.excluded.contains key := by
    rw [Bool.eq_iff_iff, List.contains_iff_mem, List.contains_iff_mem, mem_excluded_without]
    exact and_iff_left hkey
  simp only [claims, hdest, hdest', hexcluded]
  rfl

section FromEnd

variable (hsource : node.strategy.source = .position) (hdest : node.strategy.dest = .position)
  (hk : k < 0) {input : Value} (hwidth : input.width < 2 ^ 63)
include hsource hdest hk hwidth

theorem leftovers_without (mapper : Mapper) :
    (node.without k).leftovers mapper input = node.leftovers mapper input := by
  have hfields : (node.without k).fields = node.fields := rfl
  have hstrategy : (node.without k).strategy = node.strategy := rfl
  rw [leftovers, leftovers, hfields, hstrategy, hsource, KeyKind.entries_eq_map_parts,
    List.filterMap_map, List.filterMap_map]
  refine List.filterMap_congr fun part hpart => ?_
  have hplace : part.place < 2 ^ 63 := Nat.lt_trans (KeyKind.of_mem_parts hpart).1 hwidth
  have hkey : part.key .position ≠ .position k := fun heq =>
    ofNat_ne_of_neg hk hplace (Key.position.inj heq)
  simp only [Function.comp_apply, claims_without hdest hkey]

/-- An exclusion from the end changes nothing. -/
theorem apply_without : (node.without k).apply input = node.apply input := by
  have hextract : (node.without k).extract input = node.extract input := by
    rw [extract, extract]
    have hremaining : (node.without k).remaining = node.remaining := rfl
    simp only [hremaining, leftovers_without hsource hdest hk hwidth]
    rfl
  have hrecord : (node.without k).applyRecord input = node.applyRecord input := by
    rw [applyRecord, applyRecord, hextract]
    rfl
  have hsource' : (node.without k).strategy.source = .position := hsource
  rw [apply_of_source_position _ hsource', apply_of_source_position _ hsource, hrecord]

end FromEnd

/-- An element at a position that counts from the front is at that position, and only there. -/
theorem ofNat_eq_iff_nonneg {length i : Nat} (hi : i < 2 ^ 63)
    (hplace : Value.place? length k = some i) : Int64.ofNat i = k ↔ 0 ≤ k := by
  constructor
  · intro heq
    by_contra hneg
    exact ofNat_ne_of_neg (Int64.not_le.1 hneg) hi heq
  · intro hnonneg
    rw [Value.place?, if_pos (toInt_nonneg.1 hnonneg), Option.some_inj] at hplace
    rw [← hplace, ofNat_toNat hnonneg]

/-- The elements left over from a list are those that are not dropped. -/
theorem mem_keys_leftovers_list (hnode : node.Planned) (hsource : node.strategy.source = .position)
    (hdest : node.strategy.dest = .position) {items : List Value} (hlength : items.length < 2 ^ 63)
    {i : Nat} (hi : i < items.length) :
    .position (Int64.ofNat i) ∈ (node.leftovers id (.array items)).map (·.1) ↔
      ¬node.Drops items.length i := by
  constructor
  · intro hmem
    obtain ⟨⟨key, v⟩, hp, rfl⟩ := List.mem_map.1 hmem
    exact ((mem_leftovers_list hnode hsource hdest hlength hi).1 hp).1
  · intro hkept
    exact List.mem_map_of_mem ((mem_leftovers_list hnode hsource hdest hlength hi).2 ⟨hkept, rfl⟩)

/-- Of a node that copies the elements of a list into a list, an exclusion leaves out the element
that its position names, exactly if the position counts from the front or something else drops the
element. If it counts from the end, the node does the same without it. -/
theorem exclusion_removes_unless_from_end (hnode : node.Planned)
    (hsource : node.strategy.source = .position) (hdest : node.strategy.dest = .position)
    (hremaining : node.remaining = some id) (hk : .position k ∈ node.excluded) :
    (∀ items : List Value, items.length < 2 ^ 63 → node.passes (.array items) = true →
      ∃ row : Row, node.apply (.array items) = some (node.write row) ∧
        row.rest = node.leftovers id (.array items) ∧
        ∀ i < items.length, Value.place? items.length k = some i →
          (.position (Int64.ofNat i) ∉ row.rest.map (·.1) ↔
            0 ≤ k ∨ (node.without k).Drops items.length i)) ∧
      (k < 0 → ∀ v : Value, v.width < 2 ^ 63 → (node.without k).apply v = node.apply v) := by
  refine ⟨fun items hlength hpasses => ?_, fun hneg v hwidth =>
    apply_without hsource hdest hneg hwidth⟩
  obtain ⟨row, happly, -, hrest⟩ := apply_list hsource hdest hremaining hpasses
  refine ⟨row, happly, hrest, fun i hi hplace => ?_⟩
  rw [hrest, mem_keys_leftovers_list hnode hsource hdest hlength hi, not_not, drops_iff_without hk,
    ofNat_eq_iff_nonneg (Nat.lt_trans hi hlength) hplace]

/-- Of three elements the first is excluded. The last, excluded by its position from the end, is
copied all the same. -/
theorem exclusion_of_last_element :
    let node := Node.plan [.exclusion (.position (-1)), .exclusion (.position 0)] .unspecified none
    let items := [10, 20, 30].map Value.int
    node.Planned ∧ node.apply (.array items) = some (.array [.int 20, .int 30]) ∧
      (∃ row : Row, node.apply (.array items) = some (node.write row) ∧
        .position 0 ∉ row.rest.map (·.1)) ∧
      (∃ row : Row, node.apply (.array items) = some (node.write row) ∧
        .position 2 ∈ row.rest.map (·.1)) ∧
      (node.without (-1)).apply (.array items) = node.apply (.array items) := by
  intro node items
  have hnode : node.Planned := planned_plan _ _ _
  have hkept : ¬(node.without (-1)).Drops items.length 2 := by
    rintro (⟨f, hf, -⟩ | hexcluded | hdest)
    · exact absurd hf List.not_mem_nil
    · exact absurd hexcluded (by decide)
    · exact absurd hdest List.not_mem_nil
  obtain ⟨hfirst, -⟩ := exclusion_removes_unless_from_end hnode rfl rfl rfl
    (show .position 0 ∈ node.excluded by decide)
  obtain ⟨hlast, hsame⟩ := exclusion_removes_unless_from_end hnode rfl rfl rfl
    (show .position (-1) ∈ node.excluded by decide)
  refine ⟨hnode, by decide, ?_, ?_, hsame (by decide) _ (by decide)⟩
  · obtain ⟨row, happly, -, hmem⟩ := hfirst items (by decide) rfl
    exact ⟨row, happly, (hmem 0 (by decide) rfl).2 (.inl (by decide))⟩
  · obtain ⟨row, happly, -, hmem⟩ := hlast items (by decide) rfl
    refine ⟨row, happly, ?_⟩
    by_contra hleft
    rcases (hmem 2 (by decide) rfl).1 hleft with hfront | hdrops
    · exact absurd hfront (by decide)
    · exact hkept hdrops

end Node

end Reshape
