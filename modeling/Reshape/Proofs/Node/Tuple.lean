import Reshape.Proofs.Node.Grouping
import Reshape.Proofs.Node.Parts
import Reshape.Proofs.Node.Plan
import Reshape.Proofs.Sorting
import Reshape.Value.Identity

/-!
# Writing a row into an array

Which value stands where in an array that a node writes is stated by the origins of its places
(`Node.origins`): the places of the tuple in order, then the ordering slots that hold something, and
at last the leftovers that are not in the tuple. The array that is written shows exactly these
origins, and each value of the row, of a field or left over, is the origin of one place.

For a node that copies the elements of a list this tells what becomes of every element: no element
is lost or doubled unless a field reads it, its position is excluded or a field is written there.
-/

namespace Reshape

/-! ## Origins -/

/-- Where the value at a place of an output array comes from. -/
inductive Origin where
  /-- The field with a destination. -/
  | field (dest : Key)
  /-- The leftover under a key. -/
  | leftover (key : Key)
  /-- Nowhere: the place holds null. -/
  | padding
deriving DecidableEq

/-- Whether a width is that of the tuple for some destinations: one more than the largest that is
not negative, and zero if there is none. -/
def HasWidth (dests : List Key) (width : Nat) : Prop :=
  (∀ n : Int64, 0 ≤ n → .position n ∈ dests → n.toInt < width) ∧
    (width = 0 ∨ ∃ n : Int64, .position n ∈ dests ∧ n.toInt + 1 = width)

/-- Whether some numbers are the negative ones of some destinations, in ascending order. -/
def HasOrdering (dests : List Key) (ordering : List Int64) : Prop :=
  ordering.Pairwise (· < ·) ∧ ∀ n, n ∈ ordering ↔ n < 0 ∧ .position n ∈ dests

namespace Node

/-- The value that a row has for a destination. -/
def fieldAt (node : Node) (row : Row) (dest : Key) : Option Value :=
  ((node.dests.zip row.values).lookup dest).join

/-- The value that an origin contributes. -/
def valueOf (node : Node) (row : Row) : Origin → Value
  | .field dest => (node.fieldAt row dest).getD .null
  | .leftover key => (row.rest.lookup key).getD .null
  | .padding => .null

/-- The origin of a place of the tuple: the field that is written there, and otherwise the leftover
of this very position. -/
def tupleOrigin (node : Node) (row : Row) (i : Nat) : Origin :=
  let place := Key.position (Int64.ofNat i)
  if place ∈ node.dests then .field place
  else if place ∈ row.rest.map (·.1) then .leftover place
  else .padding

/-- The origins of all places of the tuple. -/
def tupleOrigins (node : Node) (width : Nat) (row : Row) : List Origin :=
  (List.range width).map (node.tupleOrigin row)

/-- The origins of the ordering slots, absent ones left out. -/
def orderingOrigins (node : Node) (ordering : List Int64) (row : Row) : List Origin :=
  (ordering.filter fun n => (node.fieldAt row (.position n)).isSome).map fun n =>
    .field (.position n)

/-- The leftovers that are not in the tuple. -/
def appendedOrigins (node : Node) (width : Nat) (row : Row) : List Origin :=
  ((row.rest.map (·.1)).filter fun key => .leftover key ∉ node.tupleOrigins width row).map
    .leftover

/-- The origins of all places of the array that a row is written as. -/
def origins (node : Node) (width : Nat) (ordering : List Int64) (row : Row) : List Origin :=
  node.tupleOrigins width row ++ node.orderingOrigins ordering row ++
    node.appendedOrigins width row

end Node

/-! ## Layouts -/

section Layouts

variable {dests : List Key} {values : List (Option Value)}

/-- The value of the field with a destination, found by its place among the destinations. -/
theorem lookup_zip_eq_idxOf? (h : values.length = dests.length) (dest : Key) :
    (dests.zip values).lookup dest = (dests.idxOf? dest).bind (values[·]?) := by
  induction dests generalizing values with
  | nil => rfl
  | cons d dests ih =>
    cases values with
    | nil => cases h
    | cons v values =>
      rw [List.zip_cons_cons, List.lookup_cons, List.idxOf?_cons]
      by_cases hd : dest = d
      · subst hd
        simp
      · have hd' : (d == dest) = false := by simpa using Ne.symm hd
        simp only [beq_eq_false_iff_ne.2 hd, hd', ih (Nat.succ.inj h), Bool.false_eq_true,
          if_false, Option.bind_map]
        rfl

/-- The number of places of the tuple. -/
def tupleWidth (dests : List Key) : Nat :=
  dests.foldl (fun length dest => max length dest.tupleLength) 0

theorem foldl_max_tupleLength (dests : List Key) (start : Nat) :
    let width := dests.foldl (fun length dest => max length dest.tupleLength) start
    start ≤ width ∧ (∀ dest ∈ dests, dest.tupleLength ≤ width) ∧
      (width = start ∨ ∃ dest ∈ dests, width = dest.tupleLength) := by
  induction dests generalizing start with
  | nil => simp
  | cons d dests ih =>
    obtain ⟨hstart, hbound, hreached⟩ := ih (max start d.tupleLength)
    refine ⟨Nat.le_trans (Nat.le_max_left ..) hstart, ?_, ?_⟩
    · rintro dest (_ | ⟨_, hdest⟩)
      · exact Nat.le_trans (Nat.le_max_right ..) hstart
      · exact hbound dest hdest
    · rcases hreached with hsame | ⟨dest, hdest, hwidth⟩
      · rcases Nat.le_total d.tupleLength start with hle | hle
        · exact .inl (hsame.trans (Nat.max_eq_left hle))
        · exact .inr ⟨d, List.mem_cons_self, hsame.trans (Nat.max_eq_right hle)⟩
      · exact .inr ⟨dest, List.mem_cons_of_mem _ hdest, hwidth⟩

theorem tupleLength_position {n : Int64} (h : 0 ≤ n) :
    ((Key.position n).tupleLength : Int) = n.toInt + 1 := by
  rw [Key.tupleLength, if_pos h]
  have := toInt_nonneg.1 h
  omega

theorem hasWidth_tupleWidth (dests : List Key) : HasWidth dests (tupleWidth dests) := by
  obtain ⟨-, hbound, hreached⟩ := foldl_max_tupleLength dests 0
  constructor
  · intro n hn hmem
    have hle := hbound _ hmem
    have hlength := tupleLength_position hn
    rw [tupleWidth]
    omega
  · rcases hreached with hzero | ⟨dest, hdest, hwidth⟩
    · exact .inl hzero
    · cases dest with
      | name text => exact .inl hwidth
      | position n =>
        by_cases hn : 0 ≤ n
        · exact .inr ⟨n, hdest, by rw [← tupleLength_position hn, tupleWidth, hwidth]⟩
        · exact .inl (hwidth.trans (if_neg hn))

theorem HasWidth.le {width : Nat} (h : HasWidth dests width) : width ≤ 2 ^ 63 := by
  rcases h.2 with rfl | ⟨n, -, hwidth⟩
  · exact Nat.zero_le _
  · have := n.toInt_lt
    omega

/-- A place of the tuple, as a position. -/
theorem HasWidth.toInt_ofNat {width : Nat} (h : HasWidth dests width) {i : Nat} (hi : i < width) :
    (Int64.ofNat i).toInt = i :=
  Int64.toInt_ofNat_of_lt (Nat.lt_of_lt_of_le hi h.le)

/-- The negative destinations, in ascending order. -/
def orderingDests (dests : List Key) : List Int64 :=
  (stableSort (fun a b => compare a.1 b.1) (orderingSlots dests)).map fun slot =>
    Int64.ofInt slot.1

theorem mem_orderingSlots {slot : Int × Nat} : slot ∈ orderingSlots dests ↔
    ∃ n : Int64, n < 0 ∧ slot.1 = n.toInt ∧ dests[slot.2]? = some (.position n) := by
  rw [orderingSlots, List.mem_filterMap]
  constructor
  · rintro ⟨⟨dest, field⟩, hmem, hslot⟩
    have hfield := List.mem_zipIdx_iff_getElem?.1 hmem
    cases dest with
    | name text => cases hslot
    | position n =>
      obtain ⟨hn, hslot⟩ := Option.ite_none_right_eq_some.1 hslot
      cases hslot
      exact ⟨n, hn, rfl, hfield⟩
  · rintro ⟨n, hn, hslot, hfield⟩
    refine ⟨(.position n, slot.2), List.mem_zipIdx_iff_getElem?.2 hfield, ?_⟩
    simp [hn, ← hslot]

theorem mem_orderingDests {n : Int64} :
    n ∈ orderingDests dests ↔ n < 0 ∧ .position n ∈ dests := by
  rw [orderingDests, List.mem_map]
  constructor
  · rintro ⟨slot, hslot, rfl⟩
    obtain ⟨n, hn, hfst, hfield⟩ := mem_orderingSlots.1 ((stableSort_perm _ _).mem_iff.1 hslot)
    rw [hfst, Int64.ofInt_toInt]
    exact ⟨hn, List.mem_of_getElem? hfield⟩
  · rintro ⟨hn, hmem⟩
    obtain ⟨field, hfield⟩ := List.mem_iff_getElem?.1 hmem
    refine ⟨(n.toInt, field), (stableSort_perm _ _).mem_iff.2 ?_, Int64.ofInt_toInt n⟩
    exact mem_orderingSlots.2 ⟨n, hn, rfl, hfield⟩

/-- The slots are related in pairs as the destinations are that they come from. -/
theorem pairwise_orderingSlots {R : Int × Nat → Int × Nat → Prop}
    (h : dests.zipIdx.Pairwise fun a b => ∀ n m, a.1 = .position n → b.1 = .position m →
      R (n.toInt, a.2) (m.toInt, b.2)) : (orderingSlots dests).Pairwise R := by
  rw [orderingSlots, List.pairwise_filterMap]
  refine h.imp ?_
  rintro ⟨dest, field⟩ ⟨dest', field'⟩ hR slot hslot slot' hslot'
  cases dest with
  | name text => cases hslot
  | position n =>
    cases dest' with
    | name text => cases hslot'
    | position m =>
      obtain ⟨-, hslot⟩ := Option.ite_none_right_eq_some.1 hslot
      obtain ⟨-, hslot'⟩ := Option.ite_none_right_eq_some.1 hslot'
      cases hslot
      cases hslot'
      exact hR n m rfl rfl

/-- No negative destination has two slots when no destination stands twice. -/
theorem pairwise_orderingSlots_of_nodup (h : dests.Nodup) :
    (orderingSlots dests).Pairwise fun a b => a.1 ≠ b.1 := by
  have hindexed : dests.zipIdx.Pairwise fun a b => a.1 ≠ b.1 := by
    rw [← List.pairwise_map, List.zipIdx_map_fst]
    exact h
  refine pairwise_orderingSlots (hindexed.imp fun hne n m hn hm heq => hne ?_)
  rw [hn, hm, Int64.toInt_inj.1 heq]

theorem hasOrdering_orderingDests (h : dests.Nodup) : HasOrdering dests (orderingDests dests) := by
  refine ⟨?_, fun n => mem_orderingDests⟩
  have hpreorder : IsTotalPreorderOn (· ∈ orderingSlots dests)
      fun p q : Int × Nat => compare p.1 q.1 :=
    (IsTotalPreorderOn.of_transCmp (P := fun _ => True)).comap fun _ _ => trivial
  have hsorted := stableSort_pairwise_of_pairwise hpreorder (fun _ hslot => hslot)
    (pairwise_orderingSlots_of_nodup h)
  rw [orderingDests, List.pairwise_map]
  refine hsorted.imp_of_mem fun {a b} ha hb hab => ?_
  obtain ⟨n, -, hn, -⟩ := mem_orderingSlots.1 ((stableSort_perm _ _).mem_iff.1 ha)
  obtain ⟨m, -, hm, -⟩ := mem_orderingSlots.1 ((stableSort_perm _ _).mem_iff.1 hb)
  rw [hn, hm, Int64.ofInt_toInt, Int64.ofInt_toInt, Int64.lt_iff_toInt_lt, ← hn, ← hm]
  rcases hab with hlt | ⟨htie, hne⟩
  · exact Int.compare_eq_lt.1 hlt
  · exact absurd (compare_eq_iff_eq.1 htie) hne

/-- A leftover takes an empty place if it goes by the position of one that no field writes. -/
theorem fills_of_iff {key : Key} : (Layout.of dests).fills key = true ↔
    ∃ i < tupleWidth dests, key = .position (Int64.ofNat i) ∧ key ∉ dests := by
  have htuple : (Layout.of dests).tuple = (List.range (tupleWidth dests)).map fun place =>
      dests.idxOf? (Key.position (Int64.ofNat place)) := rfl
  cases key with
  | name text => exact iff_of_false (by simp [Layout.fills]) (by rintro ⟨i, -, h, -⟩; cases h)
  | position n =>
    rw [Layout.fills, Bool.and_eq_true, decide_eq_true_iff, beq_iff_eq, htuple,
      List.getElem?_map, Option.map_eq_some_iff]
    constructor
    · rintro ⟨hn, place, hplace, hempty⟩
      obtain ⟨hi, rfl⟩ := List.getElem?_eq_some_iff.1 hplace
      rw [List.getElem_range, ofNat_toNat hn, List.idxOf?_eq_none_iff] at hempty
      exact ⟨n.toInt.toNat, by simpa using hi, by rw [ofNat_toNat hn], hempty⟩
    · rintro ⟨i, hi, heq, hdest⟩
      obtain rfl := Key.position.inj heq
      have htoInt := (hasWidth_tupleWidth dests).toInt_ofNat hi
      refine ⟨toInt_nonneg.2 (by omega), i, ?_, List.idxOf?_eq_none_iff.2 hdest⟩
      rw [htoInt, Int.toNat_natCast, List.getElem?_range hi]

end Layouts

/-! ## What is written -/

theorem filterMap_eq_map_getD {α β : Type} (f : α → Option β) (d : β) (items : List α) :
    items.filterMap f = (items.filter fun a => (f a).isSome).map fun a => (f a).getD d := by
  induction items with
  | nil => rfl
  | cons a items ih => cases h : f a <;> simp [h, ih]

namespace Node

variable {node : Node} {row : Row} {width : Nat} {ordering : List Int64}

theorem fieldAt_eq (h : row.values.length = node.fields.length) (dest : Key) :
    node.fieldAt row dest = (node.dests.idxOf? dest).bind row.value := by
  have hlength : row.values.length = node.dests.length := h.trans (List.length_map _).symm
  rw [fieldAt, lookup_zip_eq_idxOf? hlength]
  cases node.dests.idxOf? dest <;> rfl

theorem fieldAt_eq_of_getElem? (hnodup : node.dests.Nodup)
    (h : row.values.length = node.fields.length) {field : Nat} {dest : Key}
    (hdest : node.dests[field]? = some dest) : node.fieldAt row dest = row.value field := by
  obtain ⟨hfield, rfl⟩ := List.getElem?_eq_some_iff.1 hdest
  have hindex : node.dests.idxOf? node.dests[field] = some field := by
    refine List.idxOf?_eq_some_iff.2 ⟨hfield, rfl, fun j hj heq => ?_⟩
    exact Nat.ne_of_lt hj (hnodup.getElem_inj_iff.1 heq)
  rw [fieldAt_eq h, hindex, Option.bind_some]

/-- The value at a place of the tuple is what the field written there has, and otherwise the
leftover of this very position. -/
theorem valueOf_tupleOrigin (h : row.values.length = node.fields.length) (i : Nat) :
    node.valueOf row (node.tupleOrigin row i) =
      (match node.dests.idxOf? (Key.position (Int64.ofNat i)) with
        | some field => row.value field
        | none => row.rest.lookup (Key.position (Int64.ofNat i))).getD .null := by
  rw [tupleOrigin]
  by_cases hdest : Key.position (Int64.ofNat i) ∈ node.dests
  · obtain ⟨field, hfield⟩ := Option.isSome_iff_exists.1
      (Option.isSome_iff_ne_none.2 fun hnone => List.idxOf?_eq_none_iff.1 hnone hdest)
    rw [if_pos hdest, valueOf, fieldAt_eq h, hfield, Option.bind_some]
  · rw [if_neg hdest, List.idxOf?_eq_none_iff.2 hdest]
    split
    · rfl
    case isFalse hrest =>
      rw [lookup_eq_none_iff_not_mem.2 hrest]
      rfl

theorem map_valueOf_tupleOrigins (h : row.values.length = node.fields.length) :
    (node.tupleOrigins width row).map (node.valueOf row) =
      ((List.range width).map fun place =>
          node.dests.idxOf? (Key.position (Int64.ofNat place))).mapIdx fun place slot =>
        (match slot with
          | some field => row.value field
          | none => row.rest.lookup (Key.position (Int64.ofNat place))).getD .null := by
  rw [tupleOrigins, List.map_map]
  apply List.ext_getElem
  · simp
  · intro i _ _
    simp [valueOf_tupleOrigin h]

theorem map_valueOf_orderingOrigins (hnodup : node.dests.Nodup)
    (h : row.values.length = node.fields.length) :
    (node.orderingOrigins (orderingDests node.dests) row).map (node.valueOf row) =
      (Layout.of node.dests).ordering.filterMap row.value := by
  have hvalues : (orderingDests node.dests).filterMap (fun n => node.fieldAt row (.position n)) =
      (Layout.of node.dests).ordering.filterMap row.value := by
    rw [orderingDests, Layout.of, List.filterMap_map, List.filterMap_map]
    refine List.filterMap_congr fun slot hslot => ?_
    obtain ⟨n, -, hn, hfield⟩ := mem_orderingSlots.1 ((stableSort_perm _ _).mem_iff.1 hslot)
    rw [Function.comp_apply, Function.comp_apply, hn, Int64.ofInt_toInt]
    exact fieldAt_eq_of_getElem? hnodup h hfield
  rw [← hvalues, filterMap_eq_map_getD _ Value.null, orderingOrigins, List.map_map]
  rfl

/-! ## Where leftovers go -/

theorem mem_tupleOrigins_leftover {key : Key} :
    .leftover key ∈ node.tupleOrigins width row ↔ ∃ i < width,
      key = .position (Int64.ofNat i) ∧ key ∉ node.dests ∧ key ∈ row.rest.map (·.1) := by
  rw [tupleOrigins, List.mem_map]
  refine exists_congr fun i => ?_
  rw [List.mem_range]
  refine and_congr_right fun _ => ?_
  rw [tupleOrigin]
  constructor
  · intro h
    split at h
    · cases h
    case isFalse hdest =>
      split at h
      case isTrue hrest =>
        cases h
        exact ⟨rfl, hdest, hrest⟩
      · cases h
  · rintro ⟨rfl, hdest, hrest⟩
    rw [if_neg hdest, if_pos hrest]

/-- The leftovers that take an empty place are those that are in the tuple. -/
theorem fills_iff {key : Key} (hrest : key ∈ row.rest.map (·.1)) :
    (Layout.of node.dests).fills key = true ↔
      .leftover key ∈ node.tupleOrigins (tupleWidth node.dests) row := by
  rw [fills_of_iff, mem_tupleOrigins_leftover]
  simp only [hrest, and_true]

theorem map_valueOf_appendedOrigins (hnodup : (row.rest.map (·.1)).Nodup) :
    (node.appendedOrigins (tupleWidth node.dests) row).map (node.valueOf row) =
      row.rest.filterMap fun p =>
        if (Layout.of node.dests).fills p.1 then none else some p.2 := by
  rw [appendedOrigins, List.filter_map, List.map_map, List.map_map, ← List.filterMap_eq_map,
    List.filterMap_filter]
  refine List.filterMap_congr fun p hp => ?_
  have hlookup := (lookup_eq_some_iff_mem hnodup).2 hp
  have hfills : (Layout.of node.dests).fills p.1 = true ↔
      .leftover p.1 ∈ node.tupleOrigins (tupleWidth node.dests) row :=
    fills_iff (List.mem_map_of_mem hp)
  by_cases h : (Layout.of node.dests).fills p.1 = true
  · simp [h, hfills.1 h]
  · simp [h, mt hfills.2 h, valueOf, hlookup]

/-- A row is written as the values of the tuple, those of the ordering slots and the leftovers that
take no empty place. -/
theorem write_of_dest_position (hdest : node.strategy.dest = .position)
    (hdests : node.dests.Nodup) (hvalues : row.values.length = node.fields.length) :
    node.write row = .array
      ((node.tupleOrigins (tupleWidth node.dests) row).map (node.valueOf row) ++
        (node.orderingOrigins (orderingDests node.dests) row).map (node.valueOf row) ++
        row.rest.filterMap fun p =>
          if (Layout.of node.dests).fills p.1 then none else some p.2) := by
  rw [write, hdest, map_valueOf_tupleOrigins hvalues, map_valueOf_orderingOrigins hdests hvalues]
  rfl

/-- A row is written as the values of its origins. -/
theorem write_eq_map_origins (hdest : node.strategy.dest = .position) (hdests : node.dests.Nodup)
    (hvalues : row.values.length = node.fields.length) (hrest : (row.rest.map (·.1)).Nodup) :
    node.write row = .array
      ((node.origins (tupleWidth node.dests) (orderingDests node.dests) row).map
        (node.valueOf row)) := by
  rw [write_of_dest_position hdest hdests hvalues, origins, List.map_append, List.map_append,
    map_valueOf_appendedOrigins hrest]

/-! ## Every value once -/

theorem count_eq_one_of_pairwise {origins : List Origin}
    (h : origins.Pairwise fun a b => a = b → a = .padding) {o : Origin} (ho : o ∈ origins)
    (hvalue : o ≠ .padding) : origins.count o = 1 := by
  induction origins with
  | nil => cases ho
  | cons a origins ih =>
    obtain ⟨hfirst, hrest⟩ := List.pairwise_cons.1 h
    rcases List.mem_cons.1 ho with rfl | ho
    · have hnot : o ∉ origins := fun hmem => hvalue (hfirst o hmem rfl)
      rw [List.count_cons_self, List.count_eq_zero.2 hnot]
    · have hne : a ≠ o := fun heq => hvalue (heq ▸ hfirst o ho heq)
      rw [List.count_cons_of_ne hne, ih hrest ho]

/-- At a place of the tuple stands what goes by its position, or padding. -/
theorem tupleOrigin_cases (node : Node) (row : Row) (i : Nat) :
    node.tupleOrigin row i = .field (.position (Int64.ofNat i)) ∨
      node.tupleOrigin row i = .leftover (.position (Int64.ofNat i)) ∨
      node.tupleOrigin row i = .padding := by
  rw [tupleOrigin]
  split
  · exact .inl rfl
  · split
    · exact .inr (.inl rfl)
    · exact .inr (.inr rfl)

theorem pairwise_tupleOrigins (hwidth : HasWidth node.dests width) :
    (node.tupleOrigins width row).Pairwise fun a b => a = b → a = .padding := by
  rw [tupleOrigins, List.pairwise_map]
  refine List.pairwise_lt_range.imp_of_mem fun {i j} hi hj hlt heq => ?_
  have htoInt := hwidth.toInt_ofNat (List.mem_range.1 hi)
  have htoInt' := hwidth.toInt_ofNat (List.mem_range.1 hj)
  have hapart : Int64.ofNat i ≠ Int64.ofNat j := fun hsame => by
    rw [hsame] at htoInt
    omega
  rcases tupleOrigin_cases node row i with h | h | h <;>
    rcases tupleOrigin_cases node row j with h' | h' | h' <;> simp_all

theorem pairwise_orderingOrigins (hordering : HasOrdering node.dests ordering) :
    (node.orderingOrigins ordering row).Pairwise fun a b => a = b → a = .padding := by
  rw [orderingOrigins, List.pairwise_map]
  refine (hordering.1.filter _).imp fun {m n} hlt heq => ?_
  exact absurd (Key.position.inj (Origin.field.inj heq)) (Int64.ne_of_lt hlt)

theorem pairwise_appendedOrigins (hrest : (row.rest.map (·.1)).Nodup) :
    (node.appendedOrigins width row).Pairwise fun a b => a = b → a = .padding := by
  rw [appendedOrigins, List.pairwise_map]
  exact (hrest.filter _).imp fun hne heq => absurd (Origin.leftover.inj heq) hne

theorem mem_orderingOrigins {o : Origin} (h : o ∈ node.orderingOrigins ordering row) :
    ∃ n ∈ ordering, o = .field (.position n) := by
  obtain ⟨n, hn, rfl⟩ := List.mem_map.1 h
  exact ⟨n, (List.mem_filter.1 hn).1, rfl⟩

theorem mem_appendedOrigins {o : Origin} : o ∈ node.appendedOrigins width row ↔
    ∃ key ∈ row.rest.map (·.1), o = .leftover key ∧ o ∉ node.tupleOrigins width row := by
  rw [appendedOrigins, List.mem_map]
  constructor
  · rintro ⟨key, hkey, rfl⟩
    obtain ⟨hrest, htuple⟩ := List.mem_filter.1 hkey
    exact ⟨key, hrest, rfl, of_decide_eq_true htuple⟩
  · rintro ⟨key, hrest, rfl, htuple⟩
    exact ⟨key, List.mem_filter.2 ⟨hrest, decide_eq_true htuple⟩, rfl⟩

/-- But for padding, no origin has two places. -/
theorem pairwise_origins (hwidth : HasWidth node.dests width)
    (hordering : HasOrdering node.dests ordering) (hrest : (row.rest.map (·.1)).Nodup) :
    (node.origins width ordering row).Pairwise fun a b => a = b → a = .padding := by
  rw [origins, List.pairwise_append, List.pairwise_append]
  refine ⟨⟨pairwise_tupleOrigins hwidth, pairwise_orderingOrigins hordering, ?_⟩,
    pairwise_appendedOrigins hrest, ?_⟩
  · rintro a ha b hb rfl
    obtain ⟨n, hn, rfl⟩ := mem_orderingOrigins hb
    obtain ⟨i, hi, horigin⟩ := List.mem_map.1 ha
    have htoInt := hwidth.toInt_ofNat (List.mem_range.1 hi)
    have hnegative := Int64.lt_iff_toInt_lt.1 ((hordering.2 n).1 hn).1
    rcases tupleOrigin_cases node row i with h | h | h <;> rw [horigin] at h
    · obtain rfl := Key.position.inj (Origin.field.inj h)
      rw [htoInt] at hnegative
      exact absurd hnegative (by simp)
    · cases h
    · cases h
  · rintro a ha b hb rfl
    obtain ⟨key, -, rfl, htuple⟩ := mem_appendedOrigins.1 hb
    rcases List.mem_append.1 ha with ha | ha
    · exact absurd ha htuple
    · obtain ⟨n, -, h⟩ := mem_orderingOrigins ha
      cases h

theorem mem_origins_leftover {key : Key} :
    .leftover key ∈ node.origins width ordering row ↔ key ∈ row.rest.map (·.1) := by
  rw [origins, List.mem_append, List.mem_append]
  constructor
  · rintro ((h | h) | h)
    · obtain ⟨-, -, -, -, hrest⟩ := mem_tupleOrigins_leftover.1 h
      exact hrest
    · obtain ⟨n, -, h⟩ := mem_orderingOrigins h
      cases h
    · obtain ⟨key, hrest, h, -⟩ := mem_appendedOrigins.1 h
      cases h
      exact hrest
  · intro hrest
    by_cases htuple : .leftover key ∈ node.tupleOrigins width row
    · exact .inl (.inl htuple)
    · exact .inr (mem_appendedOrigins.2 ⟨key, hrest, rfl, htuple⟩)

/-- A field with a position for its destination is in the tuple, or among the ordering slots if it
has a value. -/
theorem mem_origins_field (hwidth : HasWidth node.dests width)
    (hordering : HasOrdering node.dests ordering) {n : Int64} (hn : .position n ∈ node.dests)
    (hvalue : (node.fieldAt row (.position n)).isSome) :
    .field (.position n) ∈ node.origins width ordering row := by
  rw [origins, List.mem_append, List.mem_append]
  left
  by_cases hnonneg : 0 ≤ n
  · left
    have hplace : n.toInt.toNat < width := by
      have := hwidth.1 n hnonneg hn
      have := toInt_nonneg.1 hnonneg
      omega
    refine List.mem_map.2 ⟨n.toInt.toNat, List.mem_range.2 hplace, ?_⟩
    rw [tupleOrigin, ofNat_toNat hnonneg, if_pos hn]
  · right
    have hslot : n ∈ ordering := (hordering.2 n).2 ⟨Int64.not_le.1 hnonneg, hn⟩
    exact List.mem_map_of_mem (List.mem_filter.2 ⟨hslot, hvalue⟩)

/-! ## Copying the elements of a list -/

/-- Whether an element of a list of `length` elements is not copied: a field reads it, its position
is excluded, or a field is written there. -/
def Drops (node : Node) (length i : Nat) : Prop :=
  (∃ f ∈ node.fields, ∃ n, f.source = .position n ∧ Value.place? length n = some i) ∨
    .position (Int64.ofNat i) ∈ node.excluded ∨ .position (Int64.ofNat i) ∈ node.dests

/-- Whether an element of a list that is left over stands at one place of the output: at its own if
that is a place of the tuple, and behind the ordering slots otherwise. -/
structure HasPlace (node : Node) (width : Nat) (ordering : List Int64) (row : Row) (i : Nat)
    (v : Value) : Prop where
  once : (node.origins width ordering row).count (.leftover (.position (Int64.ofNat i))) = 1
  value : node.valueOf row (.leftover (.position (Int64.ofNat i))) = v
  inside : i < width →
    (node.tupleOrigins width row)[i]? = some (.leftover (.position (Int64.ofNat i)))
  behind : width ≤ i → .leftover (.position (Int64.ofNat i)) ∈ node.appendedOrigins width row

theorem Planned.exists_position (h : node.Planned) (hdest : node.strategy.dest = .position)
    {dest : Key} (hmem : dest ∈ node.dests) : ∃ n, dest = .position n := by
  obtain ⟨field, hfield, rfl⟩ := List.mem_map.1 hmem
  have hkind := (h.dest field hfield).trans hdest
  cases hkey : field.dest with
  | name text =>
    rw [hkey] at hkind
    cases hkind
  | position n => exact ⟨n, rfl⟩

theorem claims_of_dest_position (hdest : node.strategy.dest = .position) {n : Int64} (hn : 0 ≤ n) :
    node.claims (.position n) = true ↔ .position n ∈ node.excluded ∨ .position n ∈ node.dests := by
  simp [claims, hdest, hn]

section List

variable {items : List Value}

theorem mem_entries_list (hlength : items.length < 2 ^ 63) {i : Nat} (hi : i < items.length)
    {v : Value} : (Key.position (Int64.ofNat i), v) ∈ KeyKind.position.entries (.array items) ↔
      v = items[i] := by
  rw [KeyKind.entries, List.mem_mapIdx]
  constructor
  · rintro ⟨j, hj, heq⟩
    obtain ⟨hkey, hvalue⟩ := Prod.mk.inj heq
    obtain rfl := ofNat_injective (by omega) (by omega) (Key.position.inj hkey)
    exact hvalue.symm
  · rintro rfl
    exact ⟨i, hi, rfl⟩

/-- The elements of a list that are left over are those that are not dropped. -/
theorem mem_leftovers_list (hnode : node.Planned) (hsource : node.strategy.source = .position)
    (hdest : node.strategy.dest = .position) (hlength : items.length < 2 ^ 63) {i : Nat}
    (hi : i < items.length) {v : Value} :
    (.position (Int64.ofNat i), v) ∈ node.leftovers id (.array items) ↔
      ¬node.Drops items.length i ∧ v = items[i] := by
  have hread : Key.position (Int64.ofNat i) ∈
      node.fields.map (fun f => f.source.resolve (.array items)) ↔
        ∃ f ∈ node.fields, ∃ n, f.source = .position n ∧
          Value.place? items.length n = some i := by
    rw [List.mem_map]
    refine exists_congr fun f => and_congr_right fun hf => ?_
    have hkind := (hnode.source f hf).trans hsource
    cases hkey : f.source with
    | name text =>
      rw [hkey] at hkind
      cases hkind
    | position n =>
      have hresolve : (Key.position n).resolve (.array items) = .position (Int64.ofNat i) ↔
          Value.place? items.length n = some i :=
        resolve_position_eq_iff hi (Nat.lt_trans hlength (by decide))
      simp [hresolve]
  have hnonneg : 0 ≤ Int64.ofNat i := by
    rw [toInt_nonneg, Int64.toInt_ofNat_of_lt (Nat.lt_trans hi hlength)]
    exact Int.natCast_nonneg i
  have hclaims := claims_of_dest_position hdest hnonneg
  rw [mem_leftovers, hsource, Drops, ← hread, ← hclaims, not_or]
  constructor
  · rintro ⟨w, hentry, hfree, hunclaimed, hvalue⟩
    obtain rfl := Option.some_inj.1 hvalue
    exact ⟨⟨hfree, Bool.eq_false_iff.1 hunclaimed⟩, (mem_entries_list hlength hi).1 hentry⟩
  · rintro ⟨⟨hfree, hunclaimed⟩, rfl⟩
    exact ⟨_, (mem_entries_list hlength hi).2 rfl, hfree, Bool.eq_false_iff.2 hunclaimed, rfl⟩

/-- Grouping a row alone folds its values and leaves what is left over. -/
theorem head?_groupRows_singleton (node : Node) {row : Row}
    (h : row.values.length = node.fields.length) :
    ∃ grouped, (node.groupRows [row]).head? = some grouped ∧
      grouped.values.length = node.fields.length ∧ grouped.rest = row.rest := by
  rw [groupRows]
  split
  · refine ⟨mergeRows node.folds row [row], ?_, ?_, rfl⟩
    · rw [foldRows_singleton, List.head?_cons]
    · simp [mergeRows, folds]
  · exact ⟨row, rfl, h, rfl⟩

theorem apply_list (hsource : node.strategy.source = .position)
    (hdest : node.strategy.dest = .position) (hremaining : node.remaining = some id)
    (hpasses : node.passes (.array items) = true) :
    ∃ row : Row, node.apply (.array items) = some (node.write row) ∧
      row.values.length = node.fields.length ∧ row.rest = node.leftovers id (.array items) := by
  let extracted : Row := ⟨node.fields.map fun f => f.mapper (f.source.read (.array items)),
    node.leftovers id (.array items)⟩
  have hextract : node.extract (.array items) = some extracted := by
    simp [extract, extracted, Value.isTerminal, hdest, hremaining]
  have hlength : extracted.values.length = node.fields.length := List.length_map _
  obtain ⟨row, hrow, hvalues, hrest⟩ := node.head?_groupRows_singleton hlength
  refine ⟨row, ?_, hvalues, hrest⟩
  rw [node.apply_of_source_position hsource, applyRecord, hpasses, hextract]
  simp [Value.isTerminal, hrow]

theorem nodup_keys_of_list (hlength : items.length < 2 ^ 63) {row : Row}
    (hrest : row.rest = node.leftovers id (.array items)) : (row.rest.map (·.1)).Nodup := by
  have hdistinct : (Value.array items).DistinctKeys := Nat.lt_trans hlength (by decide)
  rw [hrest]
  exact (node.keys_leftovers_sublist _ _).nodup (KeyKind.nodup_entries hdistinct)

/-- An element that is dropped has no place in the output, any other has one. -/
theorem place_of_element (hnode : node.Planned) (hsource : node.strategy.source = .position)
    (hdest : node.strategy.dest = .position) (hlength : items.length < 2 ^ 63) {row : Row}
    (hrest : row.rest = node.leftovers id (.array items)) {i : Nat} (hi : i < items.length)
    (hwidth : HasWidth node.dests width) (hordering : HasOrdering node.dests ordering) :
    (node.Drops items.length i →
        .leftover (.position (Int64.ofNat i)) ∉ node.origins width ordering row) ∧
      (¬node.Drops items.length i → node.HasPlace width ordering row i items[i]) := by
  have hkeys := nodup_keys_of_list hlength hrest
  have hmem : ∀ {v}, (Key.position (Int64.ofNat i), v) ∈ row.rest ↔
      ¬node.Drops items.length i ∧ v = items[i] := by
    intro v
    rw [hrest]
    exact mem_leftovers_list hnode hsource hdest hlength hi
  constructor
  · intro hdrops hplace
    obtain ⟨⟨key, v⟩, hp, rfl⟩ := List.mem_map.1 (mem_origins_leftover.1 hplace)
    exact (hmem.1 hp).1 hdrops
  · intro hkept
    have hentry : (Key.position (Int64.ofNat i), items[i]) ∈ row.rest := hmem.2 ⟨hkept, rfl⟩
    have hkey : Key.position (Int64.ofNat i) ∈ row.rest.map (·.1) := List.mem_map_of_mem hentry
    have hfree : Key.position (Int64.ofNat i) ∉ node.dests := fun hdest =>
      hkept (.inr (.inr hdest))
    constructor
    case once =>
      exact count_eq_one_of_pairwise (pairwise_origins hwidth hordering hkeys)
        (mem_origins_leftover.2 hkey) Origin.noConfusion
    case value => rw [valueOf, (lookup_eq_some_iff_mem hkeys).2 hentry, Option.getD_some]
    case inside =>
      intro htuple
      rw [tupleOrigins, List.getElem?_map, List.getElem?_range htuple, Option.map_some,
        tupleOrigin, if_neg hfree, if_pos hkey]
    case behind =>
      intro htuple
      refine mem_appendedOrigins.2 ⟨_, hkey, rfl, fun hmem => ?_⟩
      obtain ⟨j, hj, heq, -, -⟩ := mem_tupleOrigins_leftover.1 hmem
      have hbound := hwidth.le
      obtain rfl := ofNat_injective (by omega) (by omega) (Key.position.inj heq)
      exact Nat.not_lt.2 htuple hj

end List

/-- A planned node that writes positions writes every row as the values of its origins, one place
for every value of a field or left over. When it copies the elements of a list, those that are not
dropped have one place each, their own if that is within the tuple. -/
theorem write_places_each_value_once {node : Node} (hnode : node.Planned)
    (hdest : node.strategy.dest = .position) :
    ∃ width ordering, HasWidth node.dests width ∧ HasOrdering node.dests ordering ∧
      (∀ row : Row, row.values.length = node.fields.length → (row.rest.map (·.1)).Nodup →
        node.write row = .array ((node.origins width ordering row).map (node.valueOf row)) ∧
        (∀ dest ∈ node.dests, (node.fieldAt row dest).isSome →
          (node.origins width ordering row).count (.field dest) = 1) ∧
        ∀ p ∈ row.rest, (node.origins width ordering row).count (.leftover p.1) = 1) ∧
      ∀ items : List Value, node.strategy.source = .position → node.remaining = some id →
        items.length < 2 ^ 63 → node.passes (.array items) = true →
        ∃ row : Row, row.values.length = node.fields.length ∧
          node.apply (.array items) =
            some (.array ((node.origins width ordering row).map (node.valueOf row))) ∧
          ∀ i v, items[i]? = some v →
            (node.Drops items.length i →
              .leftover (.position (Int64.ofNat i)) ∉ node.origins width ordering row) ∧
            (¬node.Drops items.length i → node.HasPlace width ordering row i v) := by
  have hwidth := hasWidth_tupleWidth node.dests
  have hordering := hasOrdering_orderingDests hnode.nodup
  refine ⟨_, _, hwidth, hordering, ?_, ?_⟩
  · intro row hvalues hrest
    have hpairwise := pairwise_origins hwidth hordering hrest
    refine ⟨write_eq_map_origins hdest hnode.nodup hvalues hrest, ?_, ?_⟩
    · intro dest hmem hvalue
      obtain ⟨n, rfl⟩ := hnode.exists_position hdest hmem
      exact count_eq_one_of_pairwise hpairwise (mem_origins_field hwidth hordering hmem hvalue)
        Origin.noConfusion
    · intro p hp
      exact count_eq_one_of_pairwise hpairwise (mem_origins_leftover.2 (List.mem_map_of_mem hp))
        Origin.noConfusion
  · intro items hsource hremaining hlength hpasses
    obtain ⟨row, happly, hvalues, hrest⟩ := apply_list hsource hdest hremaining hpasses
    refine ⟨row, hvalues, ?_, ?_⟩
    · rw [happly, write_eq_map_origins hdest hnode.nodup hvalues (nodup_keys_of_list hlength hrest)]
    · intro i v hv
      obtain ⟨hi, rfl⟩ := List.getElem?_eq_some_iff.1 hv
      exact place_of_element hnode hsource hdest hlength hrest hi hwidth hordering

/-- Of nine elements the last goes fifth, the sixth third and the first behind the tuple, and the
second is excluded. The fourth is copied to its own place, and the seventh and eighth come last. -/
theorem write_places_nine_elements :
    let field (dest source : Int64) : Entry :=
      .field ⟨.position dest, .position source, id, none, none⟩
    let node := Node.plan [field 4 (-1), field 2 5, .exclusion (.position 1), field (-1) 0,
      field (-2) 9] (.copied id) none
    let items := [10, 11, 12, 13, 14, 15, 16, 17, 18].map Value.int
    let part : Row := ⟨[some (.int 18), none, some (.int 10), none],
      [(.position 3, .int 13), (.position 6, .int 16)]⟩
    node.Planned ∧ node.strategy.dest = .position ∧
      ∃ width ordering, HasWidth node.dests width ∧ HasOrdering node.dests ordering ∧
        node.write part = .array ((node.origins width ordering part).map (node.valueOf part)) ∧
        node.write part =
          .array [.null, .null, .null, .int 13, .int 18, .int 10, .int 16] ∧
        (node.origins width ordering part).count (.field (.position (-1))) = 1 ∧
        (node.origins width ordering part).count (.leftover (.position 6)) = 1 ∧
        ∃ row : Row,
          node.apply (.array items) =
            some (.array ((node.origins width ordering row).map (node.valueOf row))) ∧
          node.apply (.array items) = some (.array [.null, .null, .int 15, .int 13, .int 18,
            .int 10, .int 16, .int 17]) ∧
          node.HasPlace width ordering row 3 (.int 13) ∧
          .leftover (.position 1) ∉ node.origins width ordering row := by
  intro field node items part
  have hnode : node.Planned := planned_plan _ _ _
  obtain ⟨width, ordering, hwidth, hordering, hrows, hlists⟩ :=
    write_places_each_value_once hnode rfl
  obtain ⟨hpart, hfields, hleft⟩ := hrows part rfl (by decide)
  obtain ⟨row, -, hrow, helements⟩ := hlists items rfl rfl (by decide) rfl
  have hkept : ¬node.Drops items.length 3 := by
    rintro (⟨f, hf, n, hsource, hplace⟩ | hexcluded | hdest)
    · have hsources : node.fields.map (·.source) =
          [.position (-1), .position 5, .position 0, .position 9] := by decide
      have hn : .position n ∈ node.fields.map (·.source) := hsource ▸ List.mem_map_of_mem hf
      rw [hsources] at hn
      simp only [List.mem_cons, Key.position.injEq, List.not_mem_nil, or_false] at hn
      rcases hn with rfl | rfl | rfl | rfl <;> exact absurd hplace (by decide)
    · exact absurd hexcluded (by decide)
    · exact absurd hdest (by decide)
  exact ⟨hnode, rfl, width, ordering, hwidth, hordering, hpart, by decide,
    hfields (.position (-1)) (by decide) (by decide),
    hleft (.position 6, .int 16) (by decide), row, hrow, by decide,
    (helements 3 (.int 13) (by decide)).2 hkept,
    (helements 1 (.int 11) (by decide)).1 (.inr (.inl (by decide)))⟩

end Node

end Reshape
