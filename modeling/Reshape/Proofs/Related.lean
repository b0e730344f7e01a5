import Mathlib.Data.List.Forall2

/-!
# Related lists and absent values

Two runs of a query are compared by a relation between their values, carried over to values that may
be absent by `Option.Rel` and to lists by `List.Forall₂`. What one run does to its value or its list
the other does to the related one, so the relation has to be followed through what both do.
Where an operation compares the members of a list with each other, related lists are best taken for
one list of pairs (`exists_pairs`).
-/

namespace Reshape

section Options

variable {α β γ δ : Type} {R : α → β → Prop} {S : γ → δ → Prop} {a : Option α} {b : Option β}

theorem rel_map {f : α → γ} {g : β → δ} (h : Option.Rel R a b)
    (hfg : ∀ x y, R x y → S (f x) (g y)) : Option.Rel S (a.map f) (b.map g) := by
  cases h with
  | none => exact .none
  | some hxy => exact .some (hfg _ _ hxy)

theorem rel_bind {f : α → Option γ} {g : β → Option δ} (h : Option.Rel R a b)
    (hfg : ∀ x y, R x y → Option.Rel S (f x) (g y)) : Option.Rel S (a.bind f) (b.bind g) := by
  cases h with
  | none => exact .none
  | some hxy => exact hfg _ _ hxy

theorem rel_or {a' : Option α} {b' : Option β} (h : Option.Rel R a b) (h' : Option.Rel R a' b') :
    Option.Rel R (a.or a') (b.or b') := by
  cases h with
  | none => exact h'
  | some hxy => exact .some hxy

theorem rel_getD {x : α} {y : β} (h : Option.Rel R a b) (hxy : R x y) :
    R (a.getD x) (b.getD y) := by
  cases h with
  | none => exact hxy
  | some h => exact h

theorem isNone_eq_of_rel (h : Option.Rel R a b) : a.isNone = b.isNone := by
  cases h <;> rfl

theorem eq_of_rel_eq {a b : Option α} (h : Option.Rel Eq a b) : a = b := by
  cases h with
  | none => rfl
  | some h => rw [h]

theorem rel_mono {R' : α → β → Prop} (h : Option.Rel R a b) (hR : ∀ x y, R x y → R' x y) :
    Option.Rel R' a b := by
  cases h with
  | none => exact .none
  | some hxy => exact .some (hR _ _ hxy)

theorem rel_same {R : α → α → Prop} (h : ∀ x, R x x) (a : Option α) : Option.Rel R a a := by
  cases a with
  | none => exact .none
  | some x => exact .some (h x)

end Options

section Lists

variable {α β γ δ : Type} {R : α → β → Prop} {xs : List α} {ys : List β}

theorem forall₂_and_of_mem {S : α → β → Prop} (h : List.Forall₂ R xs ys)
    (hS : ∀ x ∈ xs, ∀ y, R x y → S x y) : List.Forall₂ (fun x y => R x y ∧ S x y) xs ys := by
  induction h with
  | nil => exact .nil
  | cons hxy _ ih =>
    obtain ⟨hx, hxs⟩ := List.forall_mem_cons.1 hS
    exact .cons ⟨hxy, hx _ hxy⟩ (ih hxs)

/-- A list mapped in two ways that are related at each of its members. -/
theorem forall₂_map_same {f g : γ → α} {R : α → α → Prop} {zs : List γ}
    (h : ∀ z ∈ zs, R (f z) (g z)) : List.Forall₂ R (zs.map f) (zs.map g) := by
  rw [List.forall₂_map_left_iff, List.forall₂_map_right_iff]
  exact List.forall₂_same.2 h

/-- A selection from a list made in two ways that are related at each of its members. -/
theorem forall₂_filterMap_same {f : γ → Option α} {g : γ → Option β} {zs : List γ}
    (h : ∀ z ∈ zs, Option.Rel R (f z) (g z)) :
    List.Forall₂ R (zs.filterMap f) (zs.filterMap g) := by
  induction zs with
  | nil => exact .nil
  | cons z zs ih =>
    obtain ⟨hz, hzs⟩ := List.forall_mem_cons.1 h
    rw [List.filterMap_cons, List.filterMap_cons]
    generalize f z = x, g z = y at hz
    cases hz with
    | none => exact ih hzs
    | some hxy => exact .cons hxy (ih hzs)

theorem forall₂_getElem? (h : List.Forall₂ R xs ys) (i : Nat) : Option.Rel R xs[i]? ys[i]? := by
  induction h generalizing i with
  | nil => exact .none
  | cons hxy _ ih =>
    cases i with
    | zero => exact .some hxy
    | succ i => exact ih i

/-- One place of a list set in two ways that are related. -/
theorem forall₂_set_same {R : γ → γ → Prop} (hR : ∀ z, R z z) {x y : γ} (hxy : R x y) (zs : List γ)
    (i : Nat) : List.Forall₂ R (zs.set i x) (zs.set i y) := by
  induction zs generalizing i with
  | nil => exact .nil
  | cons z zs ih =>
    cases i with
    | zero => exact .cons hxy (List.forall₂_same.2 fun z _ => hR z)
    | succ i => exact .cons (hR z) (ih i)

/-- Values that are present, under the names of their places. -/
theorem forall₂_filterMap_zip {κ : Type} {as : List (Option α)} {bs : List (Option β)}
    (h : List.Forall₂ (Option.Rel R) as bs) (name : γ → κ) (places : List γ) :
    List.Forall₂ (fun p q => p.1 = q.1 ∧ R p.2 q.2)
      ((places.zip as).filterMap fun p => p.2.map (name p.1, ·))
      ((places.zip bs).filterMap fun p => p.2.map (name p.1, ·)) := by
  induction h generalizing places with
  | nil => simp
  | @cons a b _ _ hab _ ih =>
    cases places with
    | nil => exact .nil
    | cons place places =>
      rw [List.zip_cons_cons, List.zip_cons_cons, List.filterMap_cons, List.filterMap_cons]
      cases hab with
      | none => exact ih places
      | some hab => exact .cons ⟨rfl, hab⟩ (ih places)

theorem map_eq_of_forall₂ {f : α → γ} {g : β → γ} (h : List.Forall₂ (fun x y => f x = g y) xs ys) :
    xs.map f = ys.map g := by
  rwa [← List.forall₂_eq_eq_eq, List.forall₂_map_left_iff, List.forall₂_map_right_iff]

/-- What a relation says of the left side holds of every member of the left list. -/
theorem forall_mem_left (h : List.Forall₂ R xs ys) {P : α → Prop} (hP : ∀ x y, R x y → P x) :
    ∀ x ∈ xs, P x := by
  induction h with
  | nil => exact fun _ hx => absurd hx List.not_mem_nil
  | cons hxy _ ih => exact List.forall_mem_cons.2 ⟨hP _ _ hxy, ih⟩

theorem forall_mem_right (h : List.Forall₂ R xs ys) {P : β → Prop} (hP : ∀ x y, R x y → P y) :
    ∀ y ∈ ys, P y :=
  forall_mem_left h.flip fun y x hxy => hP x y hxy

theorem forall_mem_iff_of_forall₂ {p : α → Prop} {q : β → Prop} (h : List.Forall₂ R xs ys)
    (hpq : ∀ a ∈ xs, ∀ b, R a b → (q b ↔ p a)) : (∀ b ∈ ys, q b) ↔ ∀ a ∈ xs, p a := by
  induction h with
  | nil => simp
  | cons hab _ ih =>
    obtain ⟨hhead, htail⟩ := List.forall_mem_cons.1 hpq
    rw [List.forall_mem_cons, List.forall_mem_cons, hhead _ hab, ih htail]

theorem exists_mem_iff_of_forall₂ {p : α → Prop} {q : β → Prop} (h : List.Forall₂ R xs ys)
    (hpq : ∀ a ∈ xs, ∀ b, R a b → (q b ↔ p a)) : (∃ b ∈ ys, q b) ↔ ∃ a ∈ xs, p a := by
  induction h with
  | nil => simp
  | cons hab _ ih =>
    obtain ⟨hhead, htail⟩ := List.forall_mem_cons.1 hpq
    rw [List.exists_mem_cons_iff, List.exists_mem_cons_iff, hhead _ hab, ih htail]

theorem exists_forall₂_iff : (∃ ys, List.Forall₂ R xs ys) ↔ ∀ a ∈ xs, ∃ b, R a b := by
  induction xs with
  | nil => simp
  | cons a xs ih =>
    rw [List.forall_mem_cons, ← ih]
    constructor
    · rintro ⟨_, h⟩
      cases h with
      | cons hab hrest => exact ⟨⟨_, hab⟩, _, hrest⟩
    · rintro ⟨⟨b, hab⟩, ys, hrest⟩
      exact ⟨b :: ys, .cons hab hrest⟩

/-- Related lists are the two sides of a list of related pairs. -/
theorem exists_pairs (h : List.Forall₂ R xs ys) :
    ∃ pairs : List { p : α × β // R p.1 p.2 },
      xs = pairs.map (·.1.1) ∧ ys = pairs.map (·.1.2) := by
  induction h with
  | nil => exact ⟨[], rfl, rfl⟩
  | @cons x y xs ys hxy _ ih =>
    obtain ⟨pairs, rfl, rfl⟩ := ih
    exact ⟨⟨(x, y), hxy⟩ :: pairs, rfl, rfl⟩

end Lists

end Reshape
