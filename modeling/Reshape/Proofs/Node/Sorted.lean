import Reshape.Proofs.Node.Directives
import Reshape.Proofs.Node.Plan
import Reshape.Proofs.Node.Ranking

/-!
# What a sorted node makes of a list

A node with sort directives gives the outputs that it would give without them, in another order.
Here that order is stated about the records themselves: which of two records precedes the other is
decided by the first field on which they differ, and fields count in the order of their priorities,
of one priority in their own order (`Node.Precedes`). Records that tie on every such field keep the
order in which they came (`Node.RankedBy`).

Numbers are compared consistently as long as no binary64 number stands among them, so the values of
the fields to sort by are asked to be none.
-/

namespace Reshape

/-! ## Sort keys -/

namespace SortKey

/-- Whether a sort key is compared before another. -/
def Before (k l : SortKey) : Prop :=
  k.priority < l.priority ∨ k.priority = l.priority ∧ k.field < l.field

theorem Before.asymm {k l : SortKey} (h : k.Before l) : ¬l.Before k := by
  rcases h with h | ⟨h, h'⟩ <;> rintro (h'' | ⟨h'', h'''⟩) <;> omega

/-- The sort key that a field with a directive gives. -/
def ofDirective (directive : Option Int64) (field : Nat) : Option SortKey :=
  directive.map fun n => ⟨field, n.toInt.natAbs, n < 0⟩

theorem ofDirectives_eq (directives : List (Option Int64)) :
    ofDirectives directives = stableSort (fun a b => compare a.priority b.priority)
      (directives.zipIdx.filterMap fun p => ofDirective p.1 p.2) := rfl

theorem mem_ofDirectives {directives : List (Option Int64)} {key : SortKey} :
    key ∈ ofDirectives directives ↔ ∃ n, directives[key.field]? = some (some n) ∧
      key.priority = n.toInt.natAbs ∧ key.descending = decide (n < 0) := by
  rw [ofDirectives_eq, (stableSort_perm _ _).mem_iff, List.mem_filterMap]
  constructor
  · rintro ⟨⟨directive, field⟩, hmem, hkey⟩
    obtain ⟨n, rfl, rfl⟩ := Option.map_eq_some_iff.1 hkey
    exact ⟨n, List.mem_zipIdx_iff_getElem?.1 hmem, rfl, rfl⟩
  · rintro ⟨n, hfield, hpriority, hdescending⟩
    refine ⟨(some n, key.field), List.mem_zipIdx_iff_getElem?.2 hfield, ?_⟩
    rw [ofDirective, Option.map_some, ← hpriority, ← hdescending]

/-- Sort keys stand in the order in which they are compared. -/
theorem ofDirectives_pairwise (directives : List (Option Int64)) :
    (ofDirectives directives).Pairwise Before := by
  have hindices : directives.zipIdx.Pairwise fun p q => p.2 < q.2 := by
    rw [← List.pairwise_map, List.zipIdx_map_snd]
    exact List.pairwise_lt_range'
  have hfields : (directives.zipIdx.filterMap fun p => ofDirective p.1 p.2).Pairwise
      fun k l => k.field < l.field := by
    refine hindices.filterMap _ ?_
    intro p q hpq k hk l hl
    obtain ⟨m, -, rfl⟩ := Option.map_eq_some_iff.1 hk
    obtain ⟨n, -, rfl⟩ := Option.map_eq_some_iff.1 hl
    exact hpq
  have hpriorities : IsTotalPreorderOn (fun _ => True)
      fun k l : SortKey => compare k.priority l.priority :=
    @IsTotalPreorderOn.of_transCmp _ _ _
      (inferInstanceAs (Std.TransCmp (compareOn SortKey.priority)))
  rw [ofDirectives_eq]
  refine (stableSort_pairwise_of_pairwise hpriorities (fun _ _ => trivial) hfields).imp ?_
  rintro k l (hlt | ⟨heq, hlt⟩)
  · exact .inl (Nat.compare_eq_lt.1 hlt)
  · exact .inr ⟨Nat.compare_eq_eq.1 heq, hlt⟩

end SortKey

section Keys

variable {keys : List SortKey} {a b : Row}

theorem compareRows_eq_eq_iff :
    compareRows keys a b = .eq ↔ ∀ key ∈ keys, key.compareRows a b = .eq := by
  induction keys with
  | nil => simp [compareRows]
  | cons key keys ih => rw [compareRows, Ordering.then_eq_eq, ih, List.forall_mem_cons]

/-- The first sort key that tells two rows apart decides. -/
theorem compareRows_eq_lt_iff (h : keys.Pairwise SortKey.Before) :
    compareRows keys a b = .lt ↔ ∃ key ∈ keys, key.compareRows a b = .lt ∧
      ∀ other ∈ keys, other.Before key → other.compareRows a b = .eq := by
  induction keys with
  | nil => simp [compareRows]
  | cons first keys ih =>
    obtain ⟨hfirst, hkeys⟩ := List.pairwise_cons.1 h
    rw [compareRows, Ordering.then_eq_lt, ih hkeys]
    constructor
    · rintro (hlt | ⟨heq, key, hmem, hlt, hothers⟩)
      · refine ⟨first, List.mem_cons_self, hlt, fun other hmem hbefore => ?_⟩
        rcases List.mem_cons.1 hmem with rfl | hmem
        · exact absurd hbefore hbefore.asymm
        · exact absurd hbefore (hfirst other hmem).asymm
      · refine ⟨key, List.mem_cons_of_mem _ hmem, hlt, fun other hother hbefore => ?_⟩
        rcases List.mem_cons.1 hother with rfl | hother
        · exact heq
        · exact hothers other hother hbefore
    · rintro ⟨key, hmem, hlt, hothers⟩
      rcases List.mem_cons.1 hmem with rfl | hmem
      · exact .inl hlt
      · refine .inr ⟨hothers first List.mem_cons_self (hfirst key hmem), key, hmem, hlt, ?_⟩
        exact fun other hother => hothers other (List.mem_cons_of_mem _ hother)

end Keys

/-! ## Records -/

/-- What a field gets from a record; a terminal value is broadcast. -/
def Field.get (f : Field) (v : Value) : Option Value :=
  if v.isTerminal then (f.mapper (some v)).or (some .null) else f.mapper (f.source.read v)

/-- The comparison of two records on a field with a sort directive. -/
def Field.compareBy (f : Field) (directive : Int64) (a b : Value) : Ordering :=
  let o := compareForSort (f.get a) (f.get b)
  if directive < 0 then o.swap else o

namespace Node

variable (node : Node)

/-- Whether the field with an index is one to sort by, with its directive. -/
def SortsBy (i : Nat) (f : Field) (directive : Int64) : Prop :=
  node.fields[i]? = some f ∧ f.sort = some directive

/-- Whether a record comes before another: on one field to sort by, while they tie on those of a
lesser absolute directive and on those of the same that come before it. -/
def Precedes (a b : Value) : Prop :=
  ∃ i f n, node.SortsBy i f n ∧ f.compareBy n a b = .lt ∧
    ∀ j g m, node.SortsBy j g m →
      m.toInt.natAbs < n.toInt.natAbs ∨ m.toInt.natAbs = n.toInt.natAbs ∧ j < i →
        compareForSort (g.get a) (g.get b) = .eq

/-- Whether two records tie on every field to sort by. -/
def ties (a b : Value) : Bool :=
  node.fields.all fun f => f.sort.isNone || compareForSort (f.get a) (f.get b) == .eq

/-- Whether some records are others, put into the order of the sort directives. -/
structure RankedBy (records ranked : List Value) : Prop where
  perm : ranked.Perm records
  ascending : ranked.Pairwise fun a b => ¬node.Precedes b a
  /-- Records that tie keep their order. -/
  stable : ∀ v ∈ records, ranked.filter (node.ties v) = records.filter (node.ties v)

variable {node : Node} {a b : Value} {row row' : Row}

theorem values_of_extract (h : node.extract a = some row) :
    row.values = node.fields.map fun f => f.get a := by
  rcases node.extract_cases h with ⟨hterminal, rfl⟩ | ⟨hterminal, hvalues, -⟩
  · simp [broadcast, Field.get, hterminal]
  · simp [hvalues, Field.get, hterminal]

theorem value_of_extract (h : node.extract a = some row) {i : Nat} {f : Field}
    (hf : node.fields[i]? = some f) : row.value i = f.get a := by
  rw [Row.value, values_of_extract h, List.getElem?_map, hf]
  rfl

theorem mem_sortKeys {key : SortKey} : key ∈ node.sortKeys ↔ ∃ f n, node.SortsBy key.field f n ∧
    key.priority = n.toInt.natAbs ∧ key.descending = decide (n < 0) := by
  rw [sortKeys, SortKey.mem_ofDirectives]
  simp only [List.getElem?_map, Option.map_eq_some_iff, SortsBy]
  constructor
  · rintro ⟨n, ⟨f, hf, hn⟩, hkey⟩
    exact ⟨f, n, ⟨hf, hn⟩, hkey⟩
  · rintro ⟨f, n, ⟨hf, hn⟩, hkey⟩
    exact ⟨n, ⟨f, hf, hn⟩, hkey⟩

/-- A sort key compares rows as its field compares the records they were extracted from. -/
theorem compareRows_of_sortsBy (ha : node.extract a = some row) (hb : node.extract b = some row')
    {key : SortKey} {f : Field} {n : Int64} (hf : node.SortsBy key.field f n)
    (hdescending : key.descending = decide (n < 0)) :
    key.compareRows row row' = f.compareBy n a b := by
  rw [SortKey.compareRows, value_of_extract ha hf.1, value_of_extract hb hf.1, hdescending,
    Field.compareBy]
  simp only [decide_eq_true_eq]

theorem compareBy_eq_eq_iff {f : Field} {n : Int64} :
    f.compareBy n a b = .eq ↔ compareForSort (f.get a) (f.get b) = .eq := by
  unfold Field.compareBy
  dsimp only
  split <;> simp

theorem compareRows_eq_lt_iff_precedes (ha : node.extract a = some row)
    (hb : node.extract b = some row') :
    compareRows node.sortKeys row row' = .lt ↔ node.Precedes a b := by
  have hkeys : node.sortKeys.Pairwise SortKey.Before := SortKey.ofDirectives_pairwise _
  rw [compareRows_eq_lt_iff hkeys]
  constructor
  · rintro ⟨key, hkey, hlt, hothers⟩
    obtain ⟨f, n, hf, hpriority, hdescending⟩ := mem_sortKeys.1 hkey
    rw [compareRows_of_sortsBy ha hb hf hdescending] at hlt
    refine ⟨key.field, f, n, hf, hlt, fun j g m hg hbefore => ?_⟩
    have hother : ⟨j, m.toInt.natAbs, m < 0⟩ ∈ node.sortKeys := mem_sortKeys.2 ⟨g, m, hg, rfl, rfl⟩
    have htie := hothers _ hother (by rwa [SortKey.Before, hpriority])
    rwa [compareRows_of_sortsBy ha hb hg rfl, compareBy_eq_eq_iff] at htie
  · rintro ⟨i, f, n, hf, hlt, hothers⟩
    refine ⟨⟨i, n.toInt.natAbs, n < 0⟩, mem_sortKeys.2 ⟨f, n, hf, rfl, rfl⟩, ?_, ?_⟩
    · rwa [compareRows_of_sortsBy ha hb hf rfl]
    · intro other hother hbefore
      obtain ⟨g, m, hg, hpriority, hdescending⟩ := mem_sortKeys.1 hother
      rw [compareRows_of_sortsBy ha hb hg hdescending, compareBy_eq_eq_iff]
      refine hothers other.field g m hg ?_
      rwa [SortKey.Before, hpriority] at hbefore

theorem compareRows_eq_eq_iff_ties (ha : node.extract a = some row)
    (hb : node.extract b = some row') :
    compareRows node.sortKeys row row' = .eq ↔ node.ties a b = true := by
  rw [compareRows_eq_eq_iff, ties, List.all_eq_true]
  constructor
  · intro h f hf
    obtain ⟨i, hi⟩ := List.mem_iff_getElem?.1 hf
    cases hsort : f.sort with
    | none => rfl
    | some n =>
      have htie := h ⟨i, n.toInt.natAbs, n < 0⟩ (mem_sortKeys.2 ⟨f, n, ⟨hi, hsort⟩, rfl, rfl⟩)
      rw [compareRows_of_sortsBy ha hb ⟨hi, hsort⟩ rfl, compareBy_eq_eq_iff] at htie
      simp [htie]
  · intro h key hkey
    obtain ⟨f, n, hf, -, hdescending⟩ := mem_sortKeys.1 hkey
    have htie := h f (List.mem_of_getElem? hf.1)
    rw [compareRows_of_sortsBy ha hb hf hdescending, compareBy_eq_eq_iff]
    simpa [hf.2] using htie

/-! ## Lists of records -/

theorem sortKeys_ne_nil (h : ∃ f ∈ node.fields, f.sort.isSome) : node.sortKeys ≠ [] := by
  obtain ⟨f, hf, hsort⟩ := h
  obtain ⟨i, hi⟩ := List.mem_iff_getElem?.1 hf
  obtain ⟨n, hn⟩ := Option.isSome_iff_exists.1 hsort
  have hkey : (⟨i, n.toInt.natAbs, n < 0⟩ : SortKey) ∈ node.sortKeys :=
    mem_sortKeys.2 ⟨f, n, ⟨hi, hn⟩, rfl, rfl⟩
  exact List.ne_nil_of_mem hkey

/-- Records without binary64 numbers in the fields to sort by are ordered by the sort keys. -/
theorem isTotalPreorderOn_sortKeys {records : List Value} (h : ∀ v ∈ records, ∀ f ∈ node.fields,
      f.sort.isSome → ∀ x, f.get v ≠ some (.float x)) :
    IsTotalPreorderOn (fun row => ∃ v ∈ records, node.extract v = some row)
      (compareRows node.sortKeys) := by
  refine isTotalPreorderOn_compareRows_of_keys ?_
  rintro key hkey a b c - ⟨v, hv, hb⟩ - ⟨-, x, -, -, hx, -⟩
  obtain ⟨f, n, hf, -⟩ := mem_sortKeys.1 hkey
  rw [value_of_extract hb hf.1] at hx
  exact h v hv f (List.mem_of_getElem? hf.1) (by rw [hf.2]; rfl) x hx

/-- Sorting the rows of some records is ranking the records. -/
theorem exists_rankedBy {records : List Value} (hrows : ∀ v ∈ records, (node.extract v).isSome)
    (hfloat : ∀ v ∈ records, ∀ f ∈ node.fields, f.sort.isSome → ∀ x, f.get v ≠ some (.float x)) :
    ∃ ranked, node.RankedBy records ranked ∧
      sortRows node.sortKeys (records.filterMap node.extract) =
        ranked.filterMap node.extract := by
  let rowOf (v : Value) : Row := (node.extract v).getD ⟨[], []⟩
  let cmp (a b : Value) : Ordering := compareRows node.sortKeys (rowOf a) (rowOf b)
  have hextract : ∀ v ∈ records, node.extract v = some (rowOf v) := by
    intro v hv
    obtain ⟨row, hrow⟩ := Option.isSome_iff_exists.1 (hrows v hv)
    simp only [rowOf, hrow, Option.getD_some]
  have horder : IsTotalPreorderOn (· ∈ records) cmp :=
    (isTotalPreorderOn_sortKeys hfloat).comap fun v hv => ⟨v, hv, hextract v hv⟩
  have hperm := stableSort_perm cmp records
  refine ⟨stableSort cmp records, ⟨hperm, ?_, ?_⟩, ?_⟩
  · refine (stableSort_pairwise horder fun _ hv => hv).imp_of_mem ?_
    intro a b ha hb hle hprecedes
    have ha := hperm.mem_iff.1 ha
    have hb := hperm.mem_iff.1 hb
    have hlt : cmp b a = .lt :=
      (compareRows_eq_lt_iff_precedes (hextract b hb) (hextract a ha)).2 hprecedes
    rw [horder.swap b a hb ha, hlt] at hle
    cases hle
  · intro v hv
    refine stableSort_filter ?_
    intro a ha b hb hva hvb
    exact horder.not_lt_of_ties hv ha hb
      ((compareRows_eq_eq_iff_ties (hextract v hv) (hextract a ha)).2 hva)
      ((compareRows_eq_eq_iff_ties (hextract v hv) (hextract b hb)).2 hvb)
  · have hrowsOf : ∀ vs ⊆ records, vs.filterMap node.extract = vs.map rowOf := by
      intro vs hvs
      rw [← List.filterMap_eq_map]
      exact List.filterMap_congr fun v hv => hextract v (hvs hv)
    rw [hrowsOf records (fun _ hv => hv), hrowsOf _ hperm.subset, sortRows, stableSort_map]

/-- What a node makes of a record apart from sorting, when it does not group. -/
theorem apply_withoutSort (hnode : node.Planned) (hfields : node.fields ≠ [])
    (hgroup : node.isGrouped = false) {v : Value} (hv : v.isArray = false) :
    node.withoutSort.apply v =
      if node.passes v then (node.extract v).map node.write else none := by
  rw [apply_of_not_isArray _ hv,
    applyRecord_of_not_isGrouped (node.isGrouped_withoutSort.trans hgroup)
      (hnode.not_passthrough hfields), extract_withoutSort, write_withoutSort]
  rfl

/-- A node that sorts and does not group makes of a list what it makes of the records of the list
apart from sorting, ranked, and behind that what it makes of the lists inside the list. -/
theorem apply_array_of_sorts (hnode : node.Planned) (hnames : node.strategy.source = .name)
    (hsort : ∃ f ∈ node.fields, f.sort.isSome) (hgroup : node.isGrouped = false)
    (items : List Value) :
    let records := items.filter fun v => !v.isArray && (node.withoutSort.apply v).isSome
    (∀ v ∈ records, ∀ f ∈ node.fields, f.sort.isSome → ∀ x, f.get v ≠ some (.float x)) →
      ∃ ranked, node.RankedBy records ranked ∧
        node.apply (.array items) = some (.array (ranked.filterMap node.withoutSort.apply ++
          (items.filter Value.isArray).filterMap node.apply)) := by
  intro records hfloat
  have hfields : node.fields ≠ [] := by
    obtain ⟨f, hf, -⟩ := hsort
    exact List.ne_nil_of_mem hf
  have hplain : node.isPlain = false := by
    simp [isPlain, sortKeys_ne_nil hsort]
  have hrecord : ∀ v ∈ records, node.withoutSort.apply v = (node.extract v).map node.write ∧
      (node.extract v).isSome := by
    intro v hv
    obtain ⟨-, hv⟩ := List.mem_filter.1 hv
    simp only [Bool.and_eq_true, Bool.not_eq_true'] at hv
    obtain ⟨harray, hsome⟩ := hv
    rw [apply_withoutSort hnode hfields hgroup harray] at hsome ⊢
    cases hpasses : node.passes v with
    | false => simp [hpasses] at hsome
    | true => simpa [hpasses] using hsome
  -- The records that pass but give no row have no output either.
  have hrows : (items.filter fun v => !v.isArray && node.passes v).filterMap node.extract =
      records.filterMap node.extract := by
    rw [List.filterMap_filter, List.filterMap_filter]
    refine List.filterMap_congr ?_
    intro v _
    cases harray : v.isArray with
    | true => rfl
    | false =>
      rw [apply_withoutSort hnode hfields hgroup harray]
      cases node.passes v <;> cases node.extract v <;> rfl
  obtain ⟨ranked, hranked, hsorted⟩ := exists_rankedBy (fun v hv => (hrecord v hv).2) hfloat
  refine ⟨ranked, hranked, ?_⟩
  have houtputs : ranked.filterMap node.withoutSort.apply =
      (ranked.filterMap node.extract).map node.write := by
    rw [List.map_filterMap]
    exact List.filterMap_congr fun v hv => (hrecord v (hranked.perm.mem_iff.1 hv)).1
  rw [apply_array_of_not_isPlain hnames hplain, applyTogether, hrows, groupRows, hgroup,
    if_neg Bool.false_ne_true, hsorted, houtputs]

end Node

end Reshape
