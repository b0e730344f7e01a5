import Reshape.Proofs.Checked
import Reshape.Proofs.Node.Tuple

/-!
# Slot tables

A node that writes arrays fixes in a table which field goes where: one slot for every place of the
tuple and behind them one for every ordering slot, each with the index of its field or empty. The
table is filled field by field, at the place that the destination names, and is read at the place
that a leftover names; a row is written by reading it at the indices in the table.

All of these indices are in range when no destination stands twice and the row has a value for each
field (`Writer.new_eq_ok`, `Writer.claims_eq_ok`, `Writer.write_eq_ok`), and what comes out is the
layout of the destinations and the array that it writes. Every field has exactly one slot
(`reduceOption_slotsOf_perm`), so the value taken for one is not missing for another.
-/

namespace Reshape

/-! ## Tables -/

/-- Fills the slots of a tuple with fields, each given with its destination and index, and collects
the ordering slots. -/
def fillSlots (slots : List (Option Nat)) (ordering : List (Int × Nat)) :
    List (Key × Nat) → Checked (List (Option Nat) × List (Int × Nat))
  | [] => .ok (slots, ordering)
  | (.position n, field) :: fields =>
    if 0 ≤ n then do
      let slots ← store slots n.toInt.toNat (some field)
      fillSlots slots ordering fields
    else fillSlots slots (ordering ++ [(n.toInt, field)]) fields
  | (.name _, _) :: fields => fillSlots slots ordering fields

/-- How a node writes its rows. -/
inductive Writer where
  | object (dests excluded : List Key)
  /-- The table of slots, those of the tuple first. -/
  | array (slots : List (Option Nat)) (tupleLength : Nat) (excluded : List Key)

/-- What is left of a row while it is written. -/
structure Unwritten where
  values : List (Option Value)
  rest : List (Key × Value)

/-- What a place of an array shows of a value: the places of the tuple are always there. -/
def shown (tupleLength place : Nat) (value : Option Value) : List Value :=
  if place < tupleLength then [value.getD .null] else value.toList

namespace Unwritten

/-- What is left once the value of a field is taken. -/
def without (u : Unwritten) (field : Nat) : Unwritten :=
  { u with values := u.values.set field none }

/-- What is left once the leftover of a position is taken; a position has one at most. -/
def past (u : Unwritten) (place : Nat) : Unwritten :=
  { u with rest := u.rest.filter (·.1 != .position (Int64.ofNat place)) }

/-- Takes the value for a slot: that of its field, and for an empty slot the leftover of this very
position, if there is one. -/
def take (u : Unwritten) (place : Nat) : Option Nat → Checked (Option Value × Unwritten)
  | some field => do
    let value ← fetch u.values field
    return (value, u.without field)
  | none =>
    match u.rest.findIdx? (·.1 == .position (Int64.ofNat place)) with
    | some i => do
      let entry ← fetch u.rest i
      return (some entry.2, u.past place)
    | none => .ok (none, u)

/-- The values that slots show from a place on, and what they leave of the row. -/
def takeAll (tupleLength : Nat) (u : Unwritten) (place : Nat) :
    List (Option Nat) → Checked (List Value × Unwritten)
  | [] => .ok ([], u)
  | slot :: slots => do
    let (value, u) ← u.take place slot
    let (items, u) ← takeAll tupleLength u (place + 1) slots
    return (shown tupleLength place value ++ items, u)

end Unwritten

namespace Writer

/-- The writer for keys of a kind. -/
def new (kind : KeyKind) (dests excluded : List Key) : Checked Writer :=
  match kind with
  | .name => .ok (.object dests excluded)
  | .position => do
    let tupleLength := tupleWidth dests
    let (slots, ordering) ← fillSlots (List.replicate tupleLength none) [] dests.zipIdx
    let ordering := stableSort (fun a b => compare a.1 b.1) ordering
    return .array (slots ++ ordering.map fun slot => some slot.2) tupleLength excluded

/-- Whether a leftover with this key may not be copied. -/
def claims : Writer → Key → Checked Bool
  | .object dests excluded, key => .ok (((dests ++ excluded).map Key.text).contains key.text)
  | .array slots tupleLength excluded, .position n =>
    if excluded.contains (.position n) then .ok true
    else if 0 ≤ n ∧ n.toInt.toNat < tupleLength then do
      let slot ← fetch slots n.toInt.toNat
      return slot.isSome
    else .ok false
  | .array _ _ _, .name _ => .ok false

/-- The output for a row. -/
def write : Writer → Row → Checked Value
  | .object dests _, row => .ok (.object (writeObject dests row))
  | .array slots tupleLength _, row => do
    let (items, u) ← Unwritten.takeAll tupleLength ⟨row.values, row.rest⟩ 0 slots
    return .array (items ++ u.rest.map (·.2))

end Writer

/-! ## Filling -/

section Filling

/-- The ordering slot of a field. -/
def orderingSlot : Key × Nat → Option (Int × Nat)
  | (.position n, field) => if n < 0 then some (n.toInt, field) else none
  | (.name _, _) => none

theorem orderingSlots_eq (dests : List Key) :
    orderingSlots dests = dests.zipIdx.filterMap orderingSlot := by
  rw [orderingSlots]
  refine List.filterMap_congr ?_
  rintro ⟨dest, field⟩ -
  cases dest <;> rfl

theorem lookup_zipIdx (dests : List Key) (dest : Key) (first : Nat) :
    (dests.zipIdx first).lookup dest = (dests.idxOf? dest).map (· + first) := by
  induction dests generalizing first with
  | nil => rfl
  | cons d dests ih =>
    rw [List.zipIdx_cons, List.lookup_cons, List.idxOf?_cons]
    by_cases hd : d = dest
    · simp [hd]
    · have hd' : ¬dest = d := fun h => hd h.symm
      simp only [beq_eq_false_iff_ne.2 hd, beq_eq_false_iff_ne.2 hd', ih, Bool.false_eq_true,
        if_false, Option.map_map]
      refine congrArg (Option.map · _) (funext fun i => ?_)
      simp only [Function.comp_apply]
      omega

/-- Slots with those of them filled whose place is the destination of a field. -/
def filled (slots : List (Option Nat)) (fields : List (Key × Nat)) : List (Option Nat) :=
  slots.mapIdx fun place slot => (fields.lookup (.position (Int64.ofNat place))).or slot

variable {slots : List (Option Nat)} {fields : List (Key × Nat)}

/-- A field whose destination is no place leaves the slots as they are. -/
theorem filled_cons_of_ne {dest : Key} {field : Nat}
    (h : ∀ i < slots.length, Key.position (Int64.ofNat i) ≠ dest) :
    filled slots ((dest, field) :: fields) = filled slots fields := by
  refine List.ext_getElem (by simp [filled]) fun i hi _ => ?_
  have hi : i < slots.length := by simpa [filled] using hi
  simp only [filled, List.getElem_mapIdx, List.lookup_cons, beq_eq_false_iff_ne.2 (h i hi)]

/-- A field whose destination is a place fills this one slot. -/
theorem filled_cons_of_position {n : Int64} {field : Nat} (hn : 0 ≤ n)
    (hlength : slots.length ≤ 2 ^ 63) (hfree : .position n ∉ fields.map (·.1)) :
    filled slots ((.position n, field) :: fields) =
      filled (slots.set n.toInt.toNat (some field)) fields := by
  have hnonneg := toInt_nonneg.1 hn
  refine List.ext_getElem (by simp [filled]) fun i hi _ => ?_
  have hi : i < slots.length := by simpa [filled] using hi
  have hbound : i < 2 ^ 63 := Nat.lt_of_lt_of_le hi hlength
  simp only [filled, List.getElem_mapIdx, List.lookup_cons, List.getElem_set]
  by_cases hsame : n.toInt.toNat = i
  · have hkey : Int64.ofNat i = n := (ofNat_eq_iff hbound).2 (by omega)
    have hnone : fields.lookup (.position n) = none := lookup_eq_none_iff_not_mem.2 hfree
    simp [hkey, hsame, hnone]
  · have hkey : Key.position (Int64.ofNat i) ≠ .position n := fun h => by
      have := (ofNat_eq_iff hbound).1 (Key.position.inj h)
      omega
    simp only [beq_eq_false_iff_ne.2 hkey, if_neg hsame]

/-- Fields with destinations of their own are filled in, each in range. -/
theorem fillSlots_eq_ok (ordering : List (Int × Nat)) (hnodup : (fields.map (·.1)).Nodup)
    (hlength : slots.length ≤ 2 ^ 63)
    (hplaces : ∀ n : Int64, 0 ≤ n → .position n ∈ fields.map (·.1) →
      n.toInt.toNat < slots.length) :
    fillSlots slots ordering fields =
      .ok (filled slots fields, ordering ++ fields.filterMap orderingSlot) := by
  -- The destination of the field in front stands at no later one, so its slot stays as filled here.
  induction fields generalizing slots ordering with
  | nil =>
    have hsame : filled slots [] = slots := by
      refine List.ext_getElem (by simp [filled]) fun i _ _ => ?_
      simp [filled]
    rw [fillSlots, hsame, List.filterMap_nil, List.append_nil]
  | cons entry fields ih =>
    obtain ⟨dest, field⟩ := entry
    obtain ⟨hfree, hrestNodup⟩ := List.nodup_cons.1 hnodup
    have hrest : ∀ n : Int64, 0 ≤ n → .position n ∈ fields.map (·.1) →
        n.toInt.toNat < slots.length :=
      fun n hn hmem => hplaces n hn (List.mem_cons_of_mem _ hmem)
    cases dest with
    | name text =>
      rw [fillSlots, ih _ hrestNodup hlength hrest, filled_cons_of_ne (fun _ _ h => by cases h)]
      rfl
    | position n =>
      rw [fillSlots]
      split
      case isTrue hn =>
        have hplace := hplaces n hn List.mem_cons_self
        have hnone : orderingSlot (.position n, field) = none :=
          if_neg (Int64.not_lt.2 hn)
        rw [store_eq_ok hplace, filled_cons_of_position hn hlength hfree,
          List.filterMap_cons_none hnone]
        refine ih _ hrestNodup (by rwa [List.length_set]) ?_
        simpa only [List.length_set] using hrest
      case isFalse hn =>
        have hneg : n < 0 := Int64.not_le.1 hn
        have hlt : n.toInt < 0 := Int64.lt_iff_toInt_lt.1 hneg
        have hsome : orderingSlot (.position n, field) = some (n.toInt, field) := if_pos hneg
        have hapart : ∀ i < slots.length, Key.position (Int64.ofNat i) ≠ .position n :=
          fun i hi h => ofNat_ne_of_neg hneg (Nat.lt_of_lt_of_le hi hlength) (Key.position.inj h)
        rw [ih _ hrestNodup hlength hrest, filled_cons_of_ne hapart, List.filterMap_cons_some hsome,
          List.append_assoc]
        rfl

end Filling

/-- The table of slots for some destinations. -/
def slotsOf (dests : List Key) : List (Option Nat) :=
  (Layout.of dests).tuple ++ (Layout.of dests).ordering.map some

section Tables

variable {dests excluded : List Key}

theorem tuple_of (dests : List Key) : (Layout.of dests).tuple =
    (List.range (tupleWidth dests)).map fun place =>
      dests.idxOf? (Key.position (Int64.ofNat place)) := rfl

theorem filled_replicate (dests : List Key) :
    filled (List.replicate (tupleWidth dests) none) dests.zipIdx = (Layout.of dests).tuple := by
  refine List.ext_getElem (by simp [filled, tuple_of]) fun i _ _ => ?_
  simp [filled, tuple_of, lookup_zipIdx]

/-- The writer of arrays has the slots of the layout. -/
theorem Writer.new_eq_ok (hnodup : dests.Nodup) :
    new .position dests excluded = .ok (.array (slotsOf dests) (tupleWidth dests) excluded) := by
  have hwidth := hasWidth_tupleWidth dests
  have hplaces : ∀ n : Int64, 0 ≤ n → .position n ∈ dests.zipIdx.map (·.1) →
      n.toInt.toNat < (List.replicate (tupleWidth dests) (none : Option Nat)).length := by
    intro n hn hmem
    rw [List.zipIdx_map_fst] at hmem
    have := hwidth.1 n hn hmem
    have := toInt_nonneg.1 hn
    rw [List.length_replicate]
    omega
  have hfilled := fillSlots_eq_ok [] (by rwa [List.zipIdx_map_fst])
    (by rw [List.length_replicate]; exact hwidth.le) hplaces
  rw [filled_replicate, List.nil_append, ← orderingSlots_eq] at hfilled
  rw [new, hfilled, slotsOf, Layout.of, List.map_map]
  rfl

theorem length_tuple : (Layout.of dests).tuple.length = tupleWidth dests := by
  rw [tuple_of, List.length_map, List.length_range]

/-- The fields of the tuple are those with positions from zero up. -/
theorem mem_reduceOption_tuple (hnodup : dests.Nodup) {field : Nat} :
    field ∈ (Layout.of dests).tuple.reduceOption ↔
      ∃ n : Int64, 0 ≤ n ∧ dests[field]? = some (.position n) := by
  have hwidth := hasWidth_tupleWidth dests
  rw [List.reduceOption_mem_iff, tuple_of, List.mem_map]
  constructor
  · rintro ⟨i, hi, hfield⟩
    obtain ⟨hlt, hdest, -⟩ := List.idxOf?_eq_some_iff.1 hfield
    have htoInt := hwidth.toInt_ofNat (List.mem_range.1 hi)
    refine ⟨Int64.ofNat i, toInt_nonneg.2 (by omega), ?_⟩
    rw [List.getElem?_eq_getElem hlt, hdest]
  · rintro ⟨n, hn, hfield⟩
    obtain ⟨hlt, hdest⟩ := List.getElem?_eq_some_iff.1 hfield
    have hplace := hwidth.1 n hn (hdest ▸ List.getElem_mem hlt)
    have hnonneg := toInt_nonneg.1 hn
    refine ⟨n.toInt.toNat, List.mem_range.2 (by omega), ?_⟩
    rw [ofNat_toNat hn]
    refine List.idxOf?_eq_some_iff.2 ⟨hlt, hdest, fun j hj heq => ?_⟩
    exact Nat.ne_of_lt hj (hnodup.getElem_inj_iff.1 (heq.trans hdest.symm))

/-- The fields behind the tuple are those with negative positions. -/
theorem mem_ordering {field : Nat} : field ∈ (Layout.of dests).ordering ↔
    ∃ n : Int64, n < 0 ∧ dests[field]? = some (.position n) := by
  rw [Layout.of, List.mem_map]
  constructor
  · rintro ⟨slot, hslot, rfl⟩
    obtain ⟨n, hn, -, hfield⟩ := mem_orderingSlots.1 ((stableSort_perm _ _).mem_iff.1 hslot)
    exact ⟨n, hn, hfield⟩
  · rintro ⟨n, hn, hfield⟩
    exact ⟨(n.toInt, field), (stableSort_perm _ _).mem_iff.2 (mem_orderingSlots.2
      ⟨n, hn, rfl, hfield⟩), rfl⟩

theorem nodup_reduceOption_tuple (dests : List Key) :
    (Layout.of dests).tuple.reduceOption.Nodup := by
  have hwidth := hasWidth_tupleWidth dests
  rw [List.reduceOption, tuple_of, List.filterMap_map]
  refine List.pairwise_filterMap.2 (List.pairwise_lt_range.imp_of_mem ?_)
  rintro i j hi hj hlt field hfield _ hfield' rfl
  obtain ⟨_, hdest, -⟩ := List.idxOf?_eq_some_iff.1 hfield
  obtain ⟨_, hdest', -⟩ := List.idxOf?_eq_some_iff.1 hfield'
  have htoInt := hwidth.toInt_ofNat (List.mem_range.1 hi)
  have htoInt' := hwidth.toInt_ofNat (List.mem_range.1 hj)
  rw [Key.position.inj (hdest.symm.trans hdest')] at htoInt
  omega

theorem nodup_ordering (dests : List Key) : (Layout.of dests).ordering.Nodup := by
  rw [Layout.of]
  refine ((stableSort_perm _ _).map _).nodup_iff.2 ?_
  have hindexed : dests.zipIdx.Pairwise fun a b => a.2 ≠ b.2 := by
    rw [← List.pairwise_map, List.zipIdx_map_snd]
    exact List.nodup_range'
  exact List.pairwise_map.2 (pairwise_orderingSlots (hindexed.imp fun hne _ _ _ _ => hne))

theorem reduceOption_slotsOf (dests : List Key) : (slotsOf dests).reduceOption =
    (Layout.of dests).tuple.reduceOption ++ (Layout.of dests).ordering := by
  simp [slotsOf, List.reduceOption]

/-- Every field has exactly one slot. -/
theorem reduceOption_slotsOf_perm (hnodup : dests.Nodup)
    (hpositions : ∀ dest ∈ dests, ∃ n, dest = .position n) :
    (slotsOf dests).reduceOption.Perm (List.range dests.length) := by
  have happart : ∀ field ∈ (Layout.of dests).tuple.reduceOption,
      field ∉ (Layout.of dests).ordering := by
    intro field htuple hordering
    obtain ⟨n, hn, hfield⟩ := (mem_reduceOption_tuple hnodup).1 htuple
    obtain ⟨m, hm, hfield'⟩ := mem_ordering.1 hordering
    obtain rfl := Key.position.inj (Option.some.inj (hfield.symm.trans hfield'))
    exact Int64.not_lt.2 hn hm
  have hall : (slotsOf dests).reduceOption.Nodup := by
    rw [reduceOption_slotsOf]
    exact List.nodup_append'.2 ⟨nodup_reduceOption_tuple dests, nodup_ordering dests, happart⟩
  refine (List.perm_ext_iff_of_nodup hall List.nodup_range).2 fun field => ?_
  rw [reduceOption_slotsOf, List.mem_append, mem_reduceOption_tuple hnodup, mem_ordering,
    List.mem_range]
  constructor
  · rintro (⟨n, -, hfield⟩ | ⟨n, -, hfield⟩) <;> exact (List.getElem?_eq_some_iff.1 hfield).1
  · intro hlt
    have hfield := List.getElem?_eq_getElem hlt
    obtain ⟨n, hn⟩ := hpositions _ (List.getElem_mem hlt)
    rw [hn] at hfield
    by_cases hnonneg : 0 ≤ n
    · exact .inl ⟨n, hnonneg, hfield⟩
    · exact .inr ⟨n, Int64.not_le.1 hnonneg, hfield⟩

end Tables

/-! ## Writing -/

section Writing

namespace Unwritten

variable {u : Unwritten} {tupleLength place : Nat}

/-- The value that is left for a field. -/
def value (u : Unwritten) (field : Nat) : Option Value := (u.values[field]?).join

/-- The value that is left for a slot at a place. -/
def shows (u : Unwritten) (place : Nat) : Option Nat → Option Value
  | some field => u.value field
  | none => u.rest.lookup (.position (Int64.ofNat place))

/-- The leftover found under a key is the one looked up. -/
theorem lookup_of_findIdx? {rest : List (Key × Value)} {key : Key} {i : Nat}
    (h : rest.findIdx? (·.1 == key) = some i) :
    ∃ entry, rest[i]? = some entry ∧ rest.lookup key = some entry.2 := by
  induction rest generalizing i with
  | nil => cases h
  | cons entry rest ih =>
    rw [List.findIdx?_cons] at h
    rw [List.lookup_cons, BEq.comm]
    split at h
    case isTrue hkey =>
      cases h
      exact ⟨entry, rfl, by rw [hkey]⟩
    case isFalse hkey =>
      obtain ⟨j, hj, rfl⟩ := Option.map_eq_some_iff.1 h
      rw [Bool.eq_false_iff.2 hkey]
      exact ih hj

theorem take_some {field : Nat} (h : field < u.values.length) :
    u.take place (some field) = .ok (u.value field, u.without field) := by
  rw [take, fetch_eq_ok.2 (List.getElem?_eq_getElem h), value, List.getElem?_eq_getElem h]
  rfl

theorem take_none : u.take place none = .ok (u.shows place none, u.past place) := by
  rw [take, shows, past]
  cases hfound : u.rest.findIdx? (·.1 == Key.position (Int64.ofNat place)) with
  | none =>
    have hapart := List.findIdx?_eq_none_iff.1 hfound
    have hlookup : u.rest.lookup (.position (Int64.ofNat place)) = none :=
      List.lookup_eq_none_iff.2 fun entry hentry => by
        rw [bne, BEq.comm, hapart entry hentry]
        rfl
    have hall : u.rest.filter (·.1 != .position (Int64.ofNat place)) = u.rest :=
      List.filter_eq_self.2 fun entry hentry => by rw [bne, hapart entry hentry]; rfl
    rw [hlookup, hall]
  | some i =>
    obtain ⟨entry, hentry, hlookup⟩ := lookup_of_findIdx? hfound
    dsimp only
    rw [fetch_eq_ok.2 hentry, hlookup]
    rfl

theorem value_without {field other : Nat} (h : other ≠ field) :
    (u.without field).value other = u.value other := by
  rw [value, without, List.getElem?_set_ne h.symm, value]

theorem length_values_without (field : Nat) :
    (u.without field).values.length = u.values.length := List.length_set

theorem filterMap_value_without {field : Nat} {others : List Nat} (h : field ∉ others) :
    others.filterMap (u.without field).value = others.filterMap u.value :=
  List.filterMap_congr fun _ hother => value_without fun heq => h (heq ▸ hother)

theorem lookup_past {other : Nat} (h : other ≠ place) (hother : other < 2 ^ 63)
    (hplace : place < 2 ^ 63) :
    (u.past place).rest.lookup (.position (Int64.ofNat other)) =
      u.rest.lookup (.position (Int64.ofNat other)) := by
  have hkey : Key.position (Int64.ofNat other) ≠ .position (Int64.ofNat place) := fun heq =>
    h (ofNat_injective (by omega) (by omega) (Key.position.inj heq))
  rw [past]
  induction u.rest with
  | nil => rfl
  | cons entry rest ih =>
    by_cases hentry : entry.1 = .position (Int64.ofNat place)
    · rw [List.filter_cons_of_neg (by simp [hentry]), ih, List.lookup_cons, hentry,
        beq_eq_false_iff_ne.2 hkey]
    · rw [List.filter_cons_of_pos (by simp [hentry]), List.lookup_cons, List.lookup_cons, ih]

/-- Once the value of a field is taken, every other slot shows what it did. -/
theorem shows_without {slot : Option Nat} {field : Nat} (h : slot ≠ some field) :
    (u.without field).shows place slot = u.shows place slot := by
  cases slot with
  | none => rfl
  | some other => exact value_without fun heq => h (congrArg some heq)

/-- So do all slots of a tuple in which the field has none. -/
theorem map_shows_without {tuple : List (Option Nat)} {field : Nat} (h : field ∉ tuple.reduceOption)
    (start : Nat) :
    (tuple.zipIdx start).map (fun p => ((u.without field).shows p.2 p.1).getD .null) =
      (tuple.zipIdx start).map fun p => (u.shows p.2 p.1).getD .null := by
  refine List.map_congr_left fun p hp => ?_
  rw [shows_without]
  intro hslot
  exact h (List.reduceOption_mem_iff.2 (hslot ▸ List.fst_mem_of_mem_zipIdx hp))

/-- Once the leftover of a place is taken, slots at other places show what they did. -/
theorem shows_past {slot : Option Nat} {other : Nat} (h : other ≠ place) (hother : other < 2 ^ 63)
    (hplace : place < 2 ^ 63) : (u.past place).shows other slot = u.shows other slot := by
  cases slot with
  | none => exact lookup_past h hother hplace
  | some field => rfl

/-- So do all slots further on. -/
theorem map_shows_past {tuple : List (Option Nat)}
    (hbound : place + 1 + tuple.length ≤ 2 ^ 63) :
    (tuple.zipIdx (place + 1)).map (fun p => ((u.past place).shows p.2 p.1).getD .null) =
      (tuple.zipIdx (place + 1)).map fun p => (u.shows p.2 p.1).getD .null := by
  refine List.map_congr_left fun p hp => ?_
  obtain ⟨hle, hlt, -⟩ := List.mem_zipIdx hp
  rw [shows_past (by omega) (by omega) (by omega)]

theorem takeAll_cons {slot : Option Nat} {slots : List (Option Nat)} {v : Option Value}
    {items : List Value} {u' u'' : Unwritten} (hslot : u.take place slot = .ok (v, u'))
    (hslots : takeAll tupleLength u' (place + 1) slots = .ok (items, u'')) :
    takeAll tupleLength u place (slot :: slots) =
      .ok (shown tupleLength place v ++ items, u'') := by
  simp only [takeAll, hslot, hslots, bind, Except.bind, pure, Except.pure]

/-- Behind the tuple the values of the fields are shown that are there. -/
theorem takeAll_ordering {ordering : List Nat} (hplace : tupleLength ≤ place)
    (hnodup : ordering.Nodup) (hrange : ∀ field ∈ ordering, field < u.values.length) :
    ∃ values, takeAll tupleLength u place (ordering.map some) =
      .ok (ordering.filterMap u.value, ⟨values, u.rest⟩) := by
  induction ordering generalizing u place with
  | nil => exact ⟨u.values, rfl⟩
  | cons field ordering ih =>
    obtain ⟨hfree, hnodup⟩ := List.nodup_cons.1 hnodup
    obtain ⟨values, hrest⟩ := ih (u := u.without field) (Nat.le_succ_of_le hplace) hnodup
      fun other hother => by
        rw [length_values_without]
        exact hrange other (List.mem_cons_of_mem _ hother)
    refine ⟨values, ?_⟩
    rw [List.map_cons, takeAll_cons (take_some (hrange field List.mem_cons_self)) hrest,
      filterMap_value_without hfree, shown, if_neg (Nat.not_lt.2 hplace)]
    cases hvalue : u.value field with
    | none => rw [List.filterMap_cons_none hvalue]; rfl
    | some v => rw [List.filterMap_cons_some hvalue]; rfl

/-- The key of an entry is the position of an empty slot among slots from a place on. -/
def fillsHole (slots : List (Option Nat)) (place : Nat) (entry : Key × Value) : Bool :=
  (slots.zipIdx place).any fun p => p.1.isNone && entry.1 == .position (Int64.ofNat p.2)

theorem fillsHole_none_cons (tuple : List (Option Nat)) (place : Nat) (entry : Key × Value) :
    fillsHole (none :: tuple) place entry =
      (entry.1 == .position (Int64.ofNat place) || fillsHole tuple (place + 1) entry) := by
  rw [fillsHole, List.zipIdx_cons, List.any_cons, Option.isNone_none, Bool.true_and]
  rfl

/-- The places of the tuple show what the row has for them, each slot in range, and what fills none
of the empty ones is left. -/
theorem takeAll_eq_ok {tuple : List (Option Nat)} {ordering : List Nat}
    (hend : place + tuple.length = tupleLength) (hbound : tupleLength ≤ 2 ^ 63)
    (hnodup : (tuple.reduceOption ++ ordering).Nodup)
    (hrange : ∀ field ∈ tuple.reduceOption ++ ordering, field < u.values.length) :
    ∃ values, takeAll tupleLength u place (tuple ++ ordering.map some) =
      .ok ((tuple.zipIdx place).map (fun p => (u.shows p.2 p.1).getD .null) ++
          ordering.filterMap u.value,
        ⟨values, u.rest.filter fun entry => !fillsHole tuple place entry⟩) := by
  -- The induction is on the slots of the tuple, and the row shrinks with them. The ordering slots
  -- are carried along, for a value taken for the tuple may not be missing behind it.
  induction tuple generalizing u place with
  | nil =>
    have hvalues := takeAll_ordering (u := u) (Nat.le_of_eq hend.symm) hnodup hrange
    simpa [fillsHole] using hvalues
  | cons slot tuple ih =>
    rw [List.length_cons] at hend
    have hplace : place < tupleLength := by omega
    have hend' : place + 1 + tuple.length = tupleLength := by omega
    cases slot with
    | some field =>
      rw [List.reduceOption_cons_of_some, List.cons_append] at hnodup hrange
      obtain ⟨hfree, hnodup⟩ := List.nodup_cons.1 hnodup
      obtain ⟨htuple, hordering⟩ := not_or.1 (mt List.mem_append.2 hfree)
      obtain ⟨values, hrest⟩ := ih (u := u.without field) hend' hnodup fun other hother => by
        rw [length_values_without]
        exact hrange other (List.mem_cons_of_mem _ hother)
      refine ⟨values, ?_⟩
      rw [List.cons_append, takeAll_cons (take_some (hrange field List.mem_cons_self)) hrest,
        map_shows_without htuple, filterMap_value_without hordering, shown, if_pos hplace]
      rfl
    | none =>
      rw [List.reduceOption_cons_of_none] at hnodup hrange
      obtain ⟨values, hrest⟩ := ih (u := u.past place) hend' hnodup hrange
      have hleft : ∀ entry : Key × Value, (!fillsHole tuple (place + 1) entry &&
          entry.1 != .position (Int64.ofNat place)) = !fillsHole (none :: tuple) place entry := by
        intro entry
        rw [fillsHole_none_cons, Bool.not_or, Bool.and_comm]
        rfl
      refine ⟨values, ?_⟩
      rw [List.cons_append, takeAll_cons take_none hrest, map_shows_past (hend' ▸ hbound), shown,
        if_pos hplace, past, List.filter_filter, List.filter_congr fun entry _ => hleft entry]
      rfl

end Unwritten

variable {dests excluded : List Key} {row : Row}

/-- The table is read in range at the place that a leftover names, and says whether the leftover is
claimed. -/
theorem Writer.claims_eq_ok {node : Node} (hdest : node.strategy.dest = .position) (key : Key) :
    (Writer.array (slotsOf node.dests) (tupleWidth node.dests) node.excluded).claims key =
      .ok (node.claims key) := by
  simp only [Node.claims, hdest]
  cases key with
  | name text => rfl
  | position n =>
    rw [claims]
    dsimp only
    by_cases hexcluded : node.excluded.contains (.position n) = true
    · rw [if_pos hexcluded, hexcluded, Bool.true_or]
    · rw [if_neg hexcluded, Bool.eq_false_iff.2 hexcluded, Bool.false_or]
      split
      case isTrue hplace =>
        have hslot : (slotsOf node.dests)[n.toInt.toNat]? =
            some (node.dests.idxOf? (.position n)) := by
          rw [slotsOf, List.getElem?_append_left (hplace.2.trans_eq length_tuple.symm), tuple_of,
            List.getElem?_map, List.getElem?_range hplace.2, Option.map_some, ofNat_toNat hplace.1]
        have hwritten : (node.dests.idxOf? (.position n)).isSome =
            node.dests.contains (.position n) := by
          rw [Bool.eq_iff_iff, List.isSome_idxOf?, List.contains_iff_mem]
        rw [fetch_eq_ok.2 hslot, decide_eq_true hplace.1, Bool.true_and, ← hwritten]
        rfl
      case isFalse hplace =>
        refine congrArg Except.ok (Eq.symm (Bool.eq_false_iff.2 fun hwritten => hplace ?_))
        obtain ⟨hn, hmem⟩ := Bool.and_eq_true_iff.1 hwritten
        have hn : 0 ≤ n := of_decide_eq_true hn
        have := (hasWidth_tupleWidth node.dests).1 n hn (List.contains_iff_mem.1 hmem)
        have := toInt_nonneg.1 hn
        exact ⟨hn, by omega⟩

/-- The empty slots of the layout are those that leftovers take. -/
theorem fillsHole_eq_fills (entry : Key × Value) :
    Unwritten.fillsHole (Layout.of dests).tuple 0 entry = (Layout.of dests).fills entry.1 := by
  rw [Bool.eq_iff_iff, fills_of_iff, Unwritten.fillsHole, List.any_eq_true]
  constructor
  · rintro ⟨⟨slot, i⟩, hslot, hentry⟩
    obtain ⟨hnone, hkey⟩ := Bool.and_eq_true_iff.1 hentry
    have hkey : entry.1 = .position (Int64.ofNat i) := beq_iff_eq.1 hkey
    obtain ⟨hi, hempty⟩ := List.getElem?_eq_some_iff.1 (List.mem_zipIdx_iff_getElem?.1 hslot)
    rw [Option.isNone_iff_eq_none.1 hnone] at hempty
    refine ⟨i, hi.trans_eq length_tuple, hkey, hkey ▸ List.idxOf?_eq_none_iff.1 ?_⟩
    simpa [tuple_of] using hempty
  · rintro ⟨i, hi, hkey, hfree⟩
    have hempty : (Layout.of dests).tuple[i]? = some none := by
      rw [tuple_of, List.getElem?_map, List.getElem?_range hi, Option.map_some,
        List.idxOf?_eq_none_iff.2 (hkey ▸ hfree)]
    exact ⟨(none, i), List.mem_zipIdx_iff_getElem?.2 hempty, by simp [hkey]⟩

/-- Writing takes no index out of range, and what is written is the array of the layout. -/
theorem Writer.write_eq_ok (hnodup : dests.Nodup)
    (hpositions : ∀ dest ∈ dests, ∃ n, dest = .position n)
    (hvalues : row.values.length = dests.length) :
    (Writer.array (slotsOf dests) (tupleWidth dests) excluded).write row =
      .ok (.array ((Layout.of dests).write row)) := by
  have hslots := reduceOption_slotsOf_perm hnodup hpositions
  rw [reduceOption_slotsOf] at hslots
  obtain ⟨values, htaken⟩ := Unwritten.takeAll_eq_ok (u := ⟨row.values, row.rest⟩)
    ((Nat.zero_add _).trans length_tuple) (hasWidth_tupleWidth dests).le
    (hslots.nodup_iff.2 List.nodup_range) fun field hfield =>
      (List.mem_range.1 (hslots.mem_iff.1 hfield)).trans_eq hvalues.symm
  have htuple : ((Layout.of dests).tuple.zipIdx.map fun p =>
        ((⟨row.values, row.rest⟩ : Unwritten).shows p.2 p.1).getD .null) =
      (Layout.of dests).tuple.mapIdx fun place slot =>
        (match slot with
          | some field => row.value field
          | none => row.rest.lookup (Key.position (Int64.ofNat place))).getD .null := by
    rw [List.mapIdx_eq_zipIdx_map]
    refine List.map_congr_left ?_
    rintro ⟨slot, place⟩ -
    cases slot <;> rfl
  have hrest : (row.rest.filter fun entry =>
        !Unwritten.fillsHole (Layout.of dests).tuple 0 entry).map (·.2) =
      row.rest.filterMap fun p => if (Layout.of dests).fills p.1 then none else some p.2 := by
    rw [← List.filterMap_eq_map, List.filterMap_filter]
    refine List.filterMap_congr fun entry _ => ?_
    rw [fillsHole_eq_fills]
    cases (Layout.of dests).fills entry.1 <;> rfl
  rw [Writer.write, slotsOf, htaken, htuple]
  exact congrArg (fun items => Except.ok (Value.array (_ ++ items))) hrest

end Writing

end Reshape
