import Reshape.Proofs.Node.GroupKey
import Mathlib.Data.List.Forall2
import Mathlib.Data.Multiset.Basic

/-!
# Grouping as a selection

`groupsBy` states what grouping is: one list for every distinct key, in the order in which the keys
were first seen, and in it all items with that key in their order of arrival. The groups depend only
on which items share a key (`groupsBy_congr`), not on what the keys are.

`foldRows` makes one row out of each of these groups (`foldRows_eq`). It never sees a group as a
whole: after some rows it holds what each group has made of its rows so far (`groupsAfter`), which
one more row changes in one place (`add_groupsAfter`).
-/

namespace Reshape

/-! ## Distinct elements -/

section FirstSeen

variable {α : Type} [BEq α]

/-- The elements of a list, each at its first place only. -/
def firstSeen : List α → List α
  | [] => []
  | x :: xs => x :: (firstSeen xs).filter (· != x)

variable [LawfulBEq α]

theorem mem_firstSeen {a : α} {xs : List α} : a ∈ firstSeen xs ↔ a ∈ xs := by
  induction xs with
  | nil => simp [firstSeen]
  | cons x xs ih =>
    by_cases h : a = x <;> simp [firstSeen, ih, h]

theorem nodup_firstSeen (xs : List α) : (firstSeen xs).Nodup := by
  induction xs with
  | nil => simp [firstSeen]
  | cons x xs ih => simp [firstSeen, ih.sublist List.filter_sublist]

/-- One more element is listed behind the others, unless it is there already. -/
theorem firstSeen_concat [DecidableEq α] (xs : List α) (x : α) :
    firstSeen (xs ++ [x]) = if x ∈ xs then firstSeen xs else firstSeen xs ++ [x] := by
  induction xs with
  | nil => rfl
  | cons y ys ih =>
    rw [List.cons_append, firstSeen, ih, firstSeen]
    by_cases hys : x ∈ ys
    · rw [if_pos hys, if_pos (List.mem_cons_of_mem y hys)]
    · by_cases hxy : x = y
      · simp [hxy ▸ hys, hxy]
      · simp [hys, hxy]

end FirstSeen

/-! ## Groups -/

section Groups

variable {α β κ κ' : Type} [BEq κ] [BEq κ']
variable {key : α → κ} {key' : α → κ'} {items : List α}

/-- The items that share a key, for every key in the order first seen. -/
def groupsBy (key : α → κ) (items : List α) : List (List α) :=
  (firstSeen (items.map key)).map fun k => items.filter (key · == k)

/-- The first item of each group. -/
def firstOfEach (key : α → κ) : List α → List α
  | [] => []
  | x :: xs => x :: (firstOfEach key xs).filter (key · != key x)

theorem firstSeen_map (key : α → κ) (items : List α) :
    firstSeen (items.map key) = (firstOfEach key items).map key := by
  induction items with
  | nil => rfl
  | cons x xs ih =>
    rw [List.map_cons, firstSeen, ih, firstOfEach, List.map_cons, List.filter_map]
    rfl

theorem groupsBy_eq (key : α → κ) (items : List α) :
    groupsBy key items = (firstOfEach key items).map fun x => items.filter (key · == key x) := by
  rw [groupsBy, firstSeen_map, List.map_map]
  rfl

theorem firstOfEach_sublist (key : α → κ) (items : List α) :
    (firstOfEach key items).Sublist items := by
  induction items with
  | nil => exact .slnil
  | cons x xs ih => exact (List.filter_sublist.trans ih).cons_cons x

theorem firstOfEach_map (key : β → κ) (f : α → β) (items : List α) :
    firstOfEach key (items.map f) = (firstOfEach (key ∘ f) items).map f := by
  induction items with
  | nil => rfl
  | cons x xs ih =>
    rw [List.map_cons, firstOfEach, ih, firstOfEach, List.map_cons, List.filter_map]
    rfl

/-- Grouping what a function makes of some items is grouping the items. -/
theorem groupsBy_map (key : β → κ) (f : α → β) (items : List α) :
    groupsBy key (items.map f) = (groupsBy (key ∘ f) items).map (List.map f) := by
  rw [groupsBy_eq, groupsBy_eq, firstOfEach_map, List.map_map, List.map_map]
  refine List.map_congr_left ?_
  intro x _
  rw [Function.comp_apply, List.filter_map]
  rfl

/-- The first items of groups have the keys of all items, each once. -/
theorem nodup_keys_firstOfEach [LawfulBEq κ] (key : α → κ) (items : List α) :
    ((firstOfEach key items).map key).Nodup := by
  rw [← firstSeen_map]
  exact nodup_firstSeen _

/-- Items with different keys are groups of their own. -/
theorem firstOfEach_eq_self [LawfulBEq κ] (h : (items.map key).Nodup) :
    firstOfEach key items = items := by
  induction items with
  | nil => rfl
  | cons x xs ih =>
    obtain ⟨hx, hxs⟩ := List.nodup_cons.1 h
    rw [firstOfEach, ih hxs, List.filter_eq_self.2]
    intro a ha
    rw [bne_iff_ne]
    exact fun heq => hx (heq ▸ List.mem_map_of_mem ha)

/-- The first of all items with the key of a group's first item is that item. -/
theorem head?_filter_of_mem_firstOfEach [LawfulBEq κ] {x : α} (h : x ∈ firstOfEach key items) :
    (items.filter (key · == key x)).head? = some x := by
  induction items with
  | nil => cases h
  | cons y ys ih =>
    rcases List.mem_cons.1 h with rfl | h
    · rw [List.filter_cons, if_pos (beq_self_eq_true _), List.head?_cons]
    · obtain ⟨hx, hne⟩ := List.mem_filter.1 h
      have hother : ¬(key y == key x) = true := by
        rw [beq_iff_eq]
        exact fun heq => bne_iff_ne.1 hne heq.symm
      rw [List.filter_cons, if_neg hother]
      exact ih hx

/-- A group holds its items in the order in which they came. -/
theorem sublist_of_mem_groupsBy {group : List α} (h : group ∈ groupsBy key items) :
    group.Sublist items := by
  obtain ⟨k, -, rfl⟩ := List.mem_map.1 h
  exact List.filter_sublist

variable [LawfulBEq κ] [LawfulBEq κ']

theorem beq_congr {a b : α} (h : key a = key b ↔ key' a = key' b) :
    (key a == key b) = (key' a == key' b) := by
  rw [Bool.eq_iff_iff, beq_iff_eq, beq_iff_eq, h]

theorem firstOfEach_congr
    (h : ∀ a ∈ items, ∀ b ∈ items, key a = key b ↔ key' a = key' b) :
    firstOfEach key items = firstOfEach key' items := by
  induction items with
  | nil => rfl
  | cons x xs ih =>
    have hrest := ih fun a ha b hb => h a (List.mem_cons_of_mem _ ha) b (List.mem_cons_of_mem _ hb)
    rw [firstOfEach, firstOfEach, hrest]
    refine congrArg _ (List.filter_congr fun a ha => ?_)
    have hmem := List.mem_cons_of_mem x ((firstOfEach_sublist key' xs).subset ha)
    exact congrArg Bool.not (beq_congr (h a hmem x List.mem_cons_self))

/-- Keys that tell the same items apart make the same groups. -/
theorem groupsBy_congr (h : ∀ a ∈ items, ∀ b ∈ items, key a = key b ↔ key' a = key' b) :
    groupsBy key items = groupsBy key' items := by
  rw [groupsBy_eq, groupsBy_eq, firstOfEach_congr h]
  refine List.map_congr_left fun x hx => List.filter_congr ?_
  intro a ha
  exact beq_congr (h a ha x ((firstOfEach_sublist key' items).subset hx))

/-- A group has a first item, and all of its items are among those that were grouped. -/
theorem exists_of_mem_groupsBy {group : List α} (h : group ∈ groupsBy key items) :
    (∃ first others, group = first :: others) ∧ group ⊆ items := by
  rw [groupsBy_eq] at h
  obtain ⟨x, hx, rfl⟩ := List.mem_map.1 h
  refine ⟨List.exists_cons_of_ne_nil (List.ne_nil_of_mem (a := x) ?_),
    List.filter_sublist.subset⟩
  exact List.mem_filter.2 ⟨(firstOfEach_sublist key items).subset hx, beq_self_eq_true _⟩

/-- The items of a group share their key. -/
theorem eq_of_mem_groupsBy {group : List α} (h : group ∈ groupsBy key items) {a b : α}
    (ha : a ∈ group) (hb : b ∈ group) : key a = key b := by
  obtain ⟨k, -, rfl⟩ := List.mem_map.1 h
  exact (beq_iff_eq.1 (List.mem_filter.1 ha).2).trans (beq_iff_eq.1 (List.mem_filter.1 hb).2).symm

/-- Items in another order fall into the same groups, these in another order too. -/
theorem groupsBy_perm {others : List α} (h : items.Perm others) (key : α → κ) :
    ∃ groups, (groupsBy key items).Perm groups ∧
      List.Forall₂ List.Perm groups (groupsBy key others) := by
  have hkeys : (firstSeen (items.map key)).Perm (firstSeen (others.map key)) := by
    refine (List.perm_ext_iff_of_nodup (nodup_firstSeen _) (nodup_firstSeen _)).2 fun k => ?_
    rw [mem_firstSeen, mem_firstSeen, (h.map key).mem_iff]
  refine ⟨_, hkeys.map _, ?_⟩
  rw [groupsBy, List.forall₂_map_left_iff, List.forall₂_map_right_iff]
  exact List.forall₂_same.2 fun k _ => h.filter _

end Groups

/-! ## Rows -/

/-- The row of a group, given its first row and all of its rows. -/
def mergeRows (folds : Folds) (first : Row) (rows : List Row) : Row :=
  { values := folds.zipIdx.map fun (fold, field) =>
      match fold with
      | some f => some (f.run (rows.filterMap (·.value field)))
      | none => first.value field
    rest := first.rest }

/-- The row of a group. -/
def mergeGroup (folds : Folds) (group : List Row) : Row :=
  mergeRows folds (group.headD ⟨[], []⟩) group

/-! ### One group -/

namespace RowGroup

/-- A group that was fed some rows, the first of which opened it. -/
def fed (folds : Folds) (rows : List Row) : RowGroup :=
  rows.foldl feed (opened folds (rows.headD ⟨[], []⟩))

theorem fed_concat (folds : Folds) {rows : List Row} (h : rows ≠ []) (row : Row) :
    fed folds (rows ++ [row]) = (fed folds rows).feed row := by
  obtain ⟨first, others, rfl⟩ := List.exists_cons_of_ne_nil h
  rw [fed, List.foldl_append]
  rfl

theorem template_foldl_feed (g : RowGroup) (rows : List Row) :
    (rows.foldl feed g).template = g.template := by
  induction rows generalizing g with
  | nil => rfl
  | cons row rows ih => exact ih (g.feed row)

/-- Each fold has got the values of its field, in the order of the rows and without absent ones. -/
theorem states_foldl_feed (g : RowGroup) (rows : List Row) :
    (rows.foldl feed g).states = g.states.zipIdx.map fun (state, field) =>
      state.map fun state => (rows.filterMap (·.value field)).foldl Accumulator.add state := by
  induction rows generalizing g with
  | nil => exact List.ext_getElem (by simp) fun i _ _ => by simp
  | cons row rows ih =>
    rw [List.foldl_cons, ih]
    refine List.ext_getElem (by simp [feed]) fun i hi _ => ?_
    have hstate : i < g.states.length := by simpa [feed] using hi
    simp only [feed, List.getElem_map, List.getElem_zipIdx, Nat.zero_add, List.filterMap_cons]
    cases g.states[i] <;> cases row.value i <;> rfl

/-- The row that a group has become is the merge of its rows. -/
theorem row_fed (folds : Folds) (rows : List Row) :
    (fed folds rows).row = mergeGroup folds rows := by
  rw [row, fed, template_foldl_feed, states_foldl_feed]
  refine congrArg (Row.mk · _) (List.ext_getElem (by simp [opened]) fun i _ hi => ?_)
  have hfold : i < folds.length := by simpa using hi
  simp only [opened, List.getElem_zipWith, List.getElem_map, List.getElem_zipIdx, Nat.zero_add]
  cases folds[i] <;> rfl

end RowGroup

/-! ### All groups -/

/-- What the groups of some rows have made of them. -/
def groupsAfter (folds : Folds) (rows : List Row) : Groups :=
  (firstSeen (rows.map (groupKey folds))).map fun key =>
    (key, RowGroup.fed folds (rows.filter (groupKey folds · == key)))

section Add

variable {folds : Folds} {key : GroupKey} {row : Row} {keys : List GroupKey}
variable {group : GroupKey → RowGroup}

/-- A row with a new key opens a group behind all others. -/
theorem Groups.add_of_notMem (h : key ∉ keys) :
    Groups.add folds key row (keys.map fun k => (k, group k)) =
      (keys.map fun k => (k, group k)) ++ [(key, (RowGroup.opened folds row).feed row)] := by
  induction keys with
  | nil => rfl
  | cons k keys ih =>
    obtain ⟨hne, hkeys⟩ := not_or.1 (mt List.mem_cons.2 h)
    rw [List.map_cons, Groups.add, if_neg (by simpa using Ne.symm hne), ih hkeys, List.cons_append]

/-- A row with a known key is fed to the group of the key and to no other. -/
theorem Groups.add_of_mem (hnodup : keys.Nodup) (h : key ∈ keys) :
    Groups.add folds key row (keys.map fun k => (k, group k)) =
      keys.map fun k => (k, if k = key then (group k).feed row else group k) := by
  induction keys with
  | nil => cases h
  | cons k keys ih =>
    obtain ⟨hfresh, hnodup⟩ := List.nodup_cons.1 hnodup
    rw [List.map_cons, List.map_cons, Groups.add]
    by_cases hk : k = key
    · have hothers : ∀ l ∈ keys, l ≠ key := fun l hl heq => hfresh (hk ▸ heq ▸ hl)
      rw [if_pos (beq_iff_eq.2 hk), if_pos hk]
      refine congrArg _ (List.map_congr_left fun l hl => ?_)
      rw [if_neg (hothers l hl)]
    · have hmem := (List.mem_cons.1 h).resolve_left (Ne.symm hk)
      rw [if_neg (by simpa using hk), if_neg hk, ih hnodup hmem]

end Add

theorem filter_ne_nil_of_mem_keys {folds : Folds} {rows : List Row} {key : GroupKey}
    (h : key ∈ rows.map (groupKey folds)) : rows.filter (groupKey folds · == key) ≠ [] := by
  obtain ⟨row, hrow, hkey⟩ := List.mem_map.1 h
  exact List.ne_nil_of_mem (List.mem_filter.2 ⟨hrow, beq_iff_eq.2 hkey⟩)

/-- One more row changes the groups in one place: it goes behind the rows of its own group. -/
theorem add_groupsAfter (folds : Folds) (rows : List Row) (row : Row) :
    Groups.add folds (groupKey folds row) row (groupsAfter folds rows) =
      groupsAfter folds (rows ++ [row]) := by
  let key := groupKey folds row
  let group (k : GroupKey) := rows.filter (groupKey folds · == k)
  have hself : (rows ++ [row]).filter (groupKey folds · == key) = group key ++ [row] := by
    simp [group, key]
  have hother : ∀ k, k ≠ key → (rows ++ [row]).filter (groupKey folds · == k) = group k := by
    intro k hk
    simp [group, Ne.symm hk, key]
  rw [groupsAfter, groupsAfter, List.map_append, List.map_singleton, firstSeen_concat]
  by_cases hmem : key ∈ rows.map (groupKey folds)
  · rw [if_pos hmem, Groups.add_of_mem (nodup_firstSeen _) (mem_firstSeen.2 hmem)]
    refine List.map_congr_left fun k _ => ?_
    by_cases hk : k = key
    · rw [if_pos hk, hk, hself, RowGroup.fed_concat folds (filter_ne_nil_of_mem_keys hmem)]
    · rw [if_neg hk, hother k hk]
  · have hempty : group key = [] := by
      refine List.filter_eq_nil_iff.2 fun other hother heq => hmem ?_
      exact List.mem_map.2 ⟨other, hother, beq_iff_eq.1 heq⟩
    rw [if_neg hmem, Groups.add_of_notMem (mt mem_firstSeen.1 hmem), List.map_append,
      List.map_singleton, hself, hempty]
    refine congrArg₂ (· ++ ·) (List.map_congr_left fun k hk => ?_) rfl
    rw [hother k fun heq => hmem (heq ▸ mem_firstSeen.1 hk)]

/-- Going on with more rows from the groups of some rows gives the groups of all of them. -/
theorem foldl_add_groupsAfter (folds : Folds) (seen rows : List Row) :
    rows.foldl (fun groups row => Groups.add folds (groupKey folds row) row groups)
      (groupsAfter folds seen) = groupsAfter folds (seen ++ rows) := by
  induction rows generalizing seen with
  | nil => rw [List.append_nil]; rfl
  | cons row rows ih =>
    rw [List.foldl_cons, add_groupsAfter, ih, List.append_assoc, List.singleton_append]

/-- Folding rows makes one row of every group. -/
theorem foldRows_eq (folds : Folds) (rows : List Row) :
    foldRows folds rows = (groupsBy (groupKey folds) rows).map (mergeGroup folds) := by
  have hrun := foldl_add_groupsAfter folds [] rows
  rw [foldRows, groupsBy, List.map_map]
  refine (congrArg (List.map (·.2.row)) hrun).trans ?_
  rw [groupsAfter, List.map_map]
  exact List.map_congr_left fun key _ => RowGroup.row_fed folds _

/-- A row alone is a group. -/
theorem foldRows_singleton (folds : Folds) (row : Row) :
    foldRows folds [row] = [mergeRows folds row [row]] := by
  simp [foldRows_eq, groupsBy, firstSeen, mergeGroup]

end Reshape
