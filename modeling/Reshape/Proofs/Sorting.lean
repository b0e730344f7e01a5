import Reshape.Sorting

/-!
# What sorting establishes

A comparison orders a class of items when it is the reverse of itself from the other side and
carries over along chains. Items of such a class are put into ascending order by `stableSort`, and
those that tie keep the order they arrived in. When no two different items tie, that order leaves no
trace.
-/

namespace Reshape

variable {α : Type} {P : α → Prop} {cmp cmp' : α → α → Ordering}

/-! ## Orders up to ties -/

/-- A comparison orders the members of a class linearly up to ties. -/
structure IsTotalPreorderOn (P : α → Prop) (cmp : α → α → Ordering) : Prop where
  swap : ∀ a b, P a → P b → cmp b a = (cmp a b).swap
  trans : ∀ a b c, P a → P b → P c → (cmp a b).isLE → (cmp b c).isLE → (cmp a c).isLE

namespace IsTotalPreorderOn

theorem of_transCmp [Std.TransCmp cmp] : IsTotalPreorderOn P cmp where
  swap _ _ _ _ := Std.OrientedCmp.eq_swap
  trans _ _ _ _ _ _ hab hbc := Std.TransCmp.isLE_trans hab hbc

theorem reversed (h : IsTotalPreorderOn P cmp) :
    IsTotalPreorderOn P fun a b => (cmp a b).swap where
  swap a b ha hb := congrArg Ordering.swap (h.swap a b ha hb)
  trans a b c ha hb hc hab hbc := by
    rw [← h.swap a b ha hb] at hab
    rw [← h.swap b c hb hc] at hbc
    rw [← h.swap a c ha hc]
    exact h.trans c b a hc hb ha hbc hab

/-- Comparing items by what a function makes of them. -/
theorem comap {β : Type} {Q : β → Prop} {f : β → α} (h : IsTotalPreorderOn P cmp)
    (hf : ∀ b, Q b → P (f b)) : IsTotalPreorderOn Q fun a b => cmp (f a) (f b) where
  swap a b ha hb := h.swap _ _ (hf a ha) (hf b hb)
  trans a b c ha hb hc := h.trans _ _ _ (hf a ha) (hf b hb) (hf c hc)

/-- Members that tie with a third at both ends of a chain tie with the middle one. -/
theorem tie_of_chain (h : IsTotalPreorderOn P cmp) {a b c : α} (ha : P a) (hb : P b) (hc : P c)
    (hab : (cmp a b).isLE) (hbc : (cmp b c).isLE) (hac : cmp a c = .eq) :
    cmp a b = .eq ∧ cmp b c = .eq := by
  have hca : (cmp c a).isLE := by
    rw [h.swap a c ha hc, hac]
    rfl
  have hba := h.trans b c a hb hc ha hbc hca
  have hcb := h.trans c a b hc ha hb hca hab
  rw [h.swap a b ha hb] at hba
  rw [h.swap b c hb hc] at hcb
  exact ⟨Ordering.eq_eq_of_isLE_of_isLE_swap hab hba, Ordering.eq_eq_of_isLE_of_isLE_swap hbc hcb⟩

/-- Comparing by one comparison and ties by another. -/
theorem andThen (h : IsTotalPreorderOn P cmp) (h' : IsTotalPreorderOn P cmp') :
    IsTotalPreorderOn P fun a b => (cmp a b).then (cmp' a b) where
  swap a b ha hb := by
    rw [Ordering.swap_then, h.swap a b ha hb, h'.swap a b ha hb]
  trans a b c ha hb hc hab hbc := by
    rw [Ordering.isLE_then_iff_and] at hab hbc ⊢
    have hac := h.trans a b c ha hb hc hab.1 hbc.1
    refine ⟨hac, ?_⟩
    by_cases hlt : cmp a c = .lt
    · exact .inl hlt
    have htie : cmp a c = .eq := by
      cases hcmp : cmp a c <;> simp_all
    obtain ⟨htab, htbc⟩ := h.tie_of_chain ha hb hc hab.1 hbc.1 htie
    have hab' := hab.2.resolve_left (by simp [htab])
    have hbc' := hbc.2.resolve_left (by simp [htbc])
    exact .inr (h'.trans a b c ha hb hc hab' hbc')

/-- What does not come before is not after from the other side. -/
theorem isLE_of_not_lt (h : IsTotalPreorderOn P cmp) {a b : α} (ha : P a) (hb : P b)
    (hlt : cmp a b ≠ .lt) : (cmp b a).isLE := by
  rw [h.swap a b ha hb]
  cases hcmp : cmp a b <;> simp_all

theorem tie_self (h : IsTotalPreorderOn P cmp) {a : α} (ha : P a) : cmp a a = .eq := by
  have hswap := h.swap a a ha ha
  cases hcmp : cmp a a <;> simp_all

/-- Of two members that tie with a third neither comes before the other. -/
theorem not_lt_of_ties (h : IsTotalPreorderOn P cmp) {a b c : α} (ha : P a) (hb : P b) (hc : P c)
    (hab : cmp a b = .eq) (hac : cmp a c = .eq) : cmp b c ≠ .lt := by
  intro hlt
  have hca : (cmp c a).isLE := by
    rw [h.swap a c ha hc, hac]
    rfl
  have hcb := h.trans c a b hc ha hb hca (by rw [hab]; rfl)
  rw [h.swap b c hb hc, hlt] at hcb
  cases hcb

end IsTotalPreorderOn

/-! ## Ties -/

theorem foldl_insertDescending_of_ties (h : ∀ a b, cmp a b ≠ .lt) (items placed : List α) :
    items.foldl (fun placed x => insertDescending cmp x placed) placed =
      items.reverse ++ placed := by
  have hinsert : ∀ x placed, insertDescending cmp x placed = x :: placed := by
    intro x placed
    cases placed with
    | nil => rfl
    | cons y ys => rw [insertDescending, if_neg (by simpa using h x y)]
  induction items generalizing placed with
  | nil => rfl
  | cons x xs ih => rw [List.foldl_cons, hinsert, ih, List.reverse_cons, List.append_assoc]; rfl

/-- Items of which none comes before another stay where they are. -/
theorem stableSort_of_ties (h : ∀ a b, cmp a b ≠ .lt) (items : List α) :
    stableSort cmp items = items := by
  rw [stableSort, foldl_insertDescending_of_ties h, List.append_nil, List.reverse_reverse]

/-! ## Ascending order -/

theorem insertDescending_pairwise (h : IsTotalPreorderOn P cmp) {x : α} {placed : List α}
    (hx : P x) (hplaced : ∀ y ∈ placed, P y)
    (hsorted : placed.Pairwise fun a b => (cmp b a).isLE) :
    (insertDescending cmp x placed).Pairwise fun a b => (cmp b a).isLE := by
  induction placed with
  | nil => exact List.pairwise_singleton _ _
  | cons y ys ih =>
    obtain ⟨hy, hys⟩ := List.forall_mem_cons.1 hplaced
    obtain ⟨hfirst, hrest⟩ := List.pairwise_cons.1 hsorted
    rw [insertDescending]
    split
    case isTrue hlt =>
      have hxy : (cmp x y).isLE := by
        rw [eq_of_beq hlt]
        rfl
      refine List.pairwise_cons.2 ⟨fun z hz => ?_, ih hys hrest⟩
      rcases List.mem_cons.1 ((insertDescending_perm cmp x ys).mem_iff.1 hz) with rfl | hz
      · exact hxy
      · exact hfirst z hz
    case isFalse hlt =>
      have hyx : (cmp y x).isLE := h.isLE_of_not_lt hx hy fun heq => hlt (by rw [heq]; rfl)
      refine List.pairwise_cons.2 ⟨fun z hz => ?_, hsorted⟩
      rcases List.mem_cons.1 hz with rfl | hz
      · exact hyx
      · exact h.trans z y x (hys z hz) hy hx (hfirst z hz) hyx

theorem foldl_insertDescending_pairwise (h : IsTotalPreorderOn P cmp) {items placed : List α}
    (hitems : ∀ x ∈ items, P x) (hplaced : ∀ y ∈ placed, P y)
    (hsorted : placed.Pairwise fun a b => (cmp b a).isLE) :
    (items.foldl (fun placed x => insertDescending cmp x placed) placed).Pairwise
      fun a b => (cmp b a).isLE := by
  induction items generalizing placed with
  | nil => exact hsorted
  | cons x xs ih =>
    obtain ⟨hx, hxs⟩ := List.forall_mem_cons.1 hitems
    refine ih hxs (fun y hy => ?_) (insertDescending_pairwise h hx hplaced hsorted)
    rcases List.mem_cons.1 ((insertDescending_perm cmp x placed).mem_iff.1 hy) with rfl | hy
    · exact hx
    · exact hplaced y hy

/-- Items of a class that the comparison orders are put into ascending order. -/
theorem stableSort_pairwise (h : IsTotalPreorderOn P cmp) {items : List α}
    (hitems : ∀ x ∈ items, P x) :
    (stableSort cmp items).Pairwise fun a b => (cmp a b).isLE := by
  rw [stableSort, List.pairwise_reverse]
  exact foldl_insertDescending_pairwise h hitems (by simp) .nil

theorem stableSort_pairwise_of_transCmp [Std.TransCmp cmp] (items : List α) :
    (stableSort cmp items).Pairwise fun a b => (cmp a b).isLE :=
  stableSort_pairwise (P := fun _ => True) .of_transCmp fun _ _ => trivial

/-- Neither of two items that do not tie minds which is put among others first. -/
theorem insertDescending_comm {cmp : α → α → Ordering} [Std.TransCmp cmp] {x y : α}
    (h : cmp x y = .lt) (placed : List α) :
    insertDescending cmp x (insertDescending cmp y placed) =
      insertDescending cmp y (insertDescending cmp x placed) := by
  have hyx : cmp y x = .gt := Std.OrientedCmp.gt_of_lt h
  induction placed with
  | nil => simp [insertDescending, h, hyx]
  | cons z placed ih =>
    by_cases hyz : cmp y z = .lt
    · have hxz : cmp x z = .lt := Std.TransCmp.lt_trans h hyz
      simp [insertDescending, hyz, hxz, ih]
    · by_cases hxz : cmp x z = .lt
      · simp [insertDescending, hyz, hxz, h]
      · simp [insertDescending, hyz, hxz, h, hyx]

/-- When items tie with themselves only, sorting does not show the order they arrived in. -/
theorem stableSort_eq_of_perm [Std.TransCmp cmp] {xs ys : List α}
    (hties : ∀ x ∈ xs, ∀ y ∈ xs, cmp x y = .eq → x = y) (h : xs.Perm ys) :
    stableSort cmp xs = stableSort cmp ys := by
  have hxs := stableSort_perm cmp xs
  have hys := stableSort_perm cmp ys
  refine List.Perm.eq_of_pairwise (fun a b ha hb hab hba => ?_)
    (stableSort_pairwise_of_transCmp xs) (stableSort_pairwise_of_transCmp ys)
    (hxs.trans (h.trans hys.symm))
  exact hties a (hxs.mem_iff.1 ha) b (h.mem_iff.2 (hys.mem_iff.1 hb))
    (Std.OrientedCmp.isLE_antisymm hab hba)

/-- When only equal items tie, sorting shows the items and nothing of their order. -/
theorem stableSort_eq_iff_perm [Std.TransCmp cmp] [Std.LawfulEqCmp cmp] {xs ys : List α} :
    stableSort cmp xs = stableSort cmp ys ↔ xs.Perm ys := by
  constructor
  · intro h
    exact (stableSort_perm cmp xs).symm.trans (h ▸ stableSort_perm cmp ys)
  · intro h
    exact stableSort_eq_of_perm (fun _ _ _ _ htie => Std.LawfulEqCmp.eq_of_compare htie) h

/-! ## Ties keep their order -/

/-- Putting an item among placed ones leaves those of a class in their order and the item, if it is
of the class, in front of them, as long as it comes before none of them. -/
theorem insertDescending_filter {p : α → Bool} {x : α} {placed : List α}
    (h : p x = true → ∀ y ∈ placed, p y = true → cmp x y ≠ .lt) :
    (insertDescending cmp x placed).filter p = (x :: placed).filter p := by
  induction placed with
  | nil => rfl
  | cons y ys ih =>
    rw [insertDescending]
    split
    case isTrue hlt =>
      have hrest := ih fun hx z hz => h hx z (List.mem_cons_of_mem _ hz)
      have hapart : ¬(p x = true ∧ p y = true) := fun hxy =>
        h hxy.1 y List.mem_cons_self hxy.2 (eq_of_beq hlt)
      rw [List.filter_cons, hrest]
      cases hx : p x <;> cases hy : p y <;> simp_all
    case isFalse => rfl

theorem foldl_insertDescending_filter {p : α → Bool} {items placed : List α}
    (h : ∀ x ∈ items ++ placed, ∀ y ∈ items ++ placed, p x = true → p y = true → cmp x y ≠ .lt) :
    (items.foldl (fun placed x => insertDescending cmp x placed) placed).filter p =
      (items.filter p).reverse ++ placed.filter p := by
  induction items generalizing placed with
  | nil => rfl
  | cons x xs ih =>
    have hmem : ∀ y ∈ xs ++ insertDescending cmp x placed, y ∈ x :: xs ++ placed := by
      intro y hy
      have hperm := (insertDescending_perm cmp x placed).append_left xs
      exact (hperm.trans List.perm_middle).mem_iff.1 hy
    have hinsert : (insertDescending cmp x placed).filter p = (x :: placed).filter p :=
      insertDescending_filter fun hx y hy =>
        h x List.mem_cons_self y (List.mem_append_right _ hy) hx
    rw [List.foldl_cons, ih fun a ha b hb => h a (hmem a ha) b (hmem b hb), hinsert]
    cases hx : p x <;> simp [hx]

/-- Items of a class in which none comes before another keep the order they arrived in. -/
theorem stableSort_filter {p : α → Bool} {items : List α}
    (h : ∀ x ∈ items, ∀ y ∈ items, p x = true → p y = true → cmp x y ≠ .lt) :
    (stableSort cmp items).filter p = items.filter p := by
  rw [stableSort, List.filter_reverse, foldl_insertDescending_filter (by simpa using h),
    List.filter_nil, List.append_nil, List.reverse_reverse]

/-- Of two items in the sorted list the first comes before the second, or they tie and arrived in
this order. -/
theorem stableSort_pairwise_of_pairwise (h : IsTotalPreorderOn P cmp) {R : α → α → Prop}
    {items : List α} (hitems : ∀ x ∈ items, P x) (horder : items.Pairwise R) :
    (stableSort cmp items).Pairwise fun a b => cmp a b = .lt ∨ cmp a b = .eq ∧ R a b := by
  rw [List.pairwise_iff_forall_sublist]
  intro a b hab
  have hle := List.pairwise_iff_forall_sublist.1 (stableSort_pairwise h hitems) hab
  cases hcmp : cmp a b with
  | lt => exact .inl rfl
  | gt => simp [hcmp] at hle
  | eq =>
    -- The items that tie with `a` are in their old order, `a` and `b` among them.
    have hpa : P a :=
      hitems a ((stableSort_perm cmp items).mem_iff.1 (hab.subset List.mem_cons_self))
    have hties : (stableSort cmp items).filter (fun x => cmp a x == .eq) =
        items.filter fun x => cmp a x == .eq := by
      refine stableSort_filter ?_
      intro x hx y hy hax hay
      exact h.not_lt_of_ties hpa (hitems x hx) (hitems y hy) (eq_of_beq hax) (eq_of_beq hay)
    have hkept := hab.filter fun x => cmp a x == .eq
    rw [hties] at hkept
    have hpair : [a, b].filter (fun x => cmp a x == .eq) = [a, b] := by
      simp [h.tie_self hpa, hcmp]
    rw [hpair] at hkept
    exact .inr ⟨rfl, List.pairwise_iff_forall_sublist.1 horder (hkept.trans List.filter_sublist)⟩

theorem insertDescending_map {β : Type} (f : β → α) (x : β) (placed : List β) :
    insertDescending cmp (f x) (placed.map f) =
      (insertDescending (fun a b => cmp (f a) (f b)) x placed).map f := by
  induction placed with
  | nil => rfl
  | cons y ys ih =>
    rw [List.map_cons, insertDescending, insertDescending, ih]
    split <;> rfl

/-- Sorting what a function makes of some items is sorting the items by what it makes of them. -/
theorem stableSort_map {β : Type} (f : β → α) (items : List β) :
    stableSort cmp (items.map f) = (stableSort (fun a b => cmp (f a) (f b)) items).map f := by
  have hfold : ∀ placed : List β,
      (items.map f).foldl (fun placed x => insertDescending cmp x placed) (placed.map f) =
        (items.foldl (fun placed x => insertDescending (fun a b => cmp (f a) (f b)) x placed)
          placed).map f := by
    induction items with
    | nil => exact fun _ => rfl
    | cons x xs ih =>
      intro placed
      rw [List.map_cons, List.foldl_cons, List.foldl_cons, insertDescending_map, ih]
  rw [stableSort, stableSort, List.map_reverse, ← hfold []]
  rfl

end Reshape
