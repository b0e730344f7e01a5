import Reshape.Proofs.Node.Parts
import Reshape.Proofs.Node.Source

/-!
# Reads and entries

What a field reads must not be copied a second time among the leftovers. A node makes sure of that
with three functions of a source key, each of which counts positions in its own way: `Key.read`
reads from either end, `Key.resolve` turns a position from the end into one from the front, and
`KeyKind.entries` numbers the elements. They agree on every record: to read a key is to look its
resolved key up among the entries (`Key.read_eq_lookup`).

`KeyKind.reads_agree_with_entries` puts this together. What a key reads is said there without the
three functions, by the field or element that it names in the record as its kind sees it; no two
entries share a key, and every entry can be read.
-/

namespace Reshape

variable {kind : KeyKind} {input : Value} {part : Part}

theorem Value.DistinctKeys.width_lt (h : input.DistinctKeys) : input.width < 2 ^ 64 := by
  cases input with
  | array items => exact h
  | object fields => exact Nat.one_lt_two_pow (by decide)
  | _ => exact Nat.two_pow_pos 64

/-! ## Reading -/

/-- A record as keys of one kind see it: to positions an object is a list of one element, itself. -/
def KeyKind.view : KeyKind → Value → Value
  | .position, .object fields => .array [.object fields]
  | _, input => input

theorem Value.at?_singleton (v : Value) (n : Int64) :
    (array [v]).at? n = if n = 0 ∨ n = -1 then some v else none := by
  rw [at?, List.length_singleton]
  by_cases hends : n = 0 ∨ n = -1
  · rw [if_pos hends, place?_one_eq_iff.2 hends]
    rfl
  · rw [if_neg hends]
    cases hplace : place? 1 n with
    | none => rfl
    | some place =>
      cases place with
      | zero => exact absurd (place?_one_eq_iff.1 hplace) hends
      | succ place => rfl

/-- A key reads what it names in the record as its kind sees it. -/
theorem Key.read_eq_index? (k : Key) : k.read input = (k.kind.view input).index? k := by
  cases k with
  | name text => rfl
  | position n =>
    cases input with
    | object fields => exact (Value.at?_singleton (.object fields) n).symm
    | _ => rfl

/-! ## Entries -/

/-- To read a key is to look the key that it resolves to up among the entries. -/
theorem Key.read_eq_lookup {k : Key} (hkind : k.kind = kind) (hwidth : input.width < 2 ^ 64) :
    k.read input = (kind.entries input).lookup (k.resolve input) := by
  have hnames : ∀ part ∈ kind.parts input,
      k.names input.width part = (part.key kind == k.resolve input) := by
    intro part hpart
    rw [Bool.eq_iff_iff, beq_iff_eq, ← resolve_eq_key_iff hkind hpart hwidth]
    exact eq_comm
  calc k.read input
      = ((kind.parts input).find? (k.names input.width)).map (·.value) := read_eq hkind
    _ = ((kind.parts input).find? fun part => part.key kind == k.resolve input).map (·.value) := by
      rw [← List.head?_filter, ← List.head?_filter, List.filter_congr hnames]
    _ = (kind.entries input).lookup (k.resolve input) := by
      rw [KeyKind.entries_eq_map_parts, lookup_map]

/-- Every part has a key that names it. A place past the largest position is reached from the end,
which is less far away. -/
theorem KeyKind.exists_names (hpart : part ∈ kind.parts input) (hwidth : input.width < 2 ^ 64) :
    ∃ k : Key, k.kind = kind ∧ k.names input.width part = true := by
  cases kind with
  | name => exact ⟨.name part.text, rfl, beq_self_eq_true part.text⟩
  | position =>
    have hplace := (KeyKind.of_mem_parts hpart).1
    suffices h : ∃ n : Int64, Value.place? input.width n = some part.place by
      obtain ⟨n, hn⟩ := h
      exact ⟨.position n, rfl, beq_iff_eq.2 hn⟩
    by_cases hfront : part.place < 2 ^ 63
    · refine ⟨Int64.ofNat part.place, ?_⟩
      rw [Value.place?, Int64.toInt_ofNat_of_lt hfront, if_pos (Int.natCast_nonneg _),
        Int.toNat_natCast]
    · refine ⟨Int64.ofInt (part.place - input.width), ?_⟩
      rw [Value.place?, Int64.toInt_ofInt_of_le (by omega) (by omega), if_neg (by omega),
        if_pos (by omega), Option.some_inj]
      omega

theorem KeyKind.exists_resolve {entry : Key × Value} (hentry : entry ∈ kind.entries input)
    (hwidth : input.width < 2 ^ 64) : ∃ k : Key, k.kind = kind ∧ k.resolve input = entry.1 := by
  rw [entries_eq_map_parts] at hentry
  obtain ⟨part, hpart, rfl⟩ := List.mem_map.1 hentry
  obtain ⟨k, hkind, hnames⟩ := exists_names hpart hwidth
  exact ⟨k, hkind, (Key.resolve_eq_key_iff hkind hpart hwidth).2 hnames⟩

/-! ## Agreement -/

/-- A key of a kind reads what it names in the record as that kind sees it. This is present exactly
if the key that it resolves to is that of an entry, and then it is the value of this entry. No two
entries have one key, and every entry has a key that resolves to its own. Of the record it is asked
what holds of every one: an object has no name twice, and a list has fewer elements than there are
positions. -/
theorem KeyKind.reads_agree_with_entries (kind : KeyKind) (hkeys : input.DistinctKeys) :
    (∀ k : Key, k.kind = kind →
        k.read input = (kind.view input).index? k ∧
        ((k.read input).isSome ↔ k.resolve input ∈ (kind.entries input).map (·.1)) ∧
        ∀ v, (k.resolve input, v) ∈ kind.entries input → k.read input = some v) ∧
      ((kind.entries input).map (·.1)).Nodup ∧
      ∀ entry ∈ kind.entries input, ∃ k : Key, k.kind = kind ∧ k.resolve input = entry.1 := by
  have hwidth := hkeys.width_lt
  have hnodup : ((kind.entries input).map (·.1)).Nodup := nodup_entries hkeys
  refine ⟨?_, hnodup, fun entry hentry => exists_resolve hentry hwidth⟩
  rintro k rfl
  have hlookup := Key.read_eq_lookup (k := k) rfl hwidth
  refine ⟨k.read_eq_index?, ?_, fun v hv => ?_⟩
  · rw [hlookup, Option.isSome_iff_ne_none, ne_eq, lookup_eq_none_iff_not_mem, not_not]
  · rw [hlookup, lookup_eq_some_iff_mem hnodup]
    exact hv

/-- The last of three elements, positions before the first one, and an object by name and by
position. -/
theorem KeyKind.reads_of_last_element :
    let list := Value.array [.int 10, .int 20, .int 30]
    let record := Value.object [("a", .int 1), ("b", .null)]
    list.DistinctKeys ∧ record.DistinctKeys ∧
      (Key.position (-1)).resolve list = .position 2 ∧
      (Key.position (-1)).read list = some (.int 30) ∧
      (Key.position (-4)).read list = none ∧
      (Key.position Int64.minValue).read list = none ∧
      (Key.position (-1)).read record = some record ∧
      (Key.position 1).read record = none ∧
      (Key.name "b").read record = some .null ∧
      (Key.name "c").read record = none := by
  intro list record
  have hlist : list.DistinctKeys := show 3 < 2 ^ 64 by decide
  have hrecord : record.DistinctKeys := show ["a", "b"].Nodup by decide
  obtain ⟨hlistReads, -, -⟩ := reads_agree_with_entries .position hlist
  obtain ⟨hrecordReads, -, -⟩ := reads_agree_with_entries .position hrecord
  obtain ⟨hfieldReads, -, -⟩ := reads_agree_with_entries .name hrecord
  refine ⟨hlist, hrecord, by decide, ?_, ?_, ?_, ?_, ?_, ?_, ?_⟩
  · exact (hlistReads _ rfl).2.2 _ (List.mem_of_getElem? (i := 2) rfl)
  · exact Option.not_isSome_iff_eq_none.1 (mt (hlistReads _ rfl).2.1.1 (by decide))
  · exact Option.not_isSome_iff_eq_none.1 (mt (hlistReads _ rfl).2.1.1 (by decide))
  · exact (hrecordReads _ rfl).2.2 _ (List.mem_of_getElem? (i := 0) rfl)
  · exact Option.not_isSome_iff_eq_none.1 (mt (hrecordReads _ rfl).2.1.1 (by decide))
  · exact (hfieldReads _ rfl).2.2 _ (List.mem_of_getElem? (i := 1) rfl)
  · exact Option.not_isSome_iff_eq_none.1 (mt (hfieldReads _ rfl).2.1.1 (by decide))

end Reshape
