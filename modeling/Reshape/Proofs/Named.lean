import Mathlib.Data.List.Forall2
import Mathlib.Data.List.Nodup
import Mathlib.Data.List.Perm.Subperm

/-!
# Lists of named parts

The fields of an object, the leftovers of a record and the texts of a group key are all lists of
parts with names. Where no name stands twice, such a list is a function of the names: looking a name
up is finding its part, and two lists with the same names can be compared part by part.
-/

namespace Reshape

variable {κ α : Type} {xs ys : List (κ × α)}

/-- Looking up a name finds the part of that name. -/
theorem lookup_eq_some_iff_mem [BEq κ] [LawfulBEq κ] (h : (xs.map (·.1)).Nodup) {name : κ} {v : α} :
    xs.lookup name = some v ↔ (name, v) ∈ xs := by
  rw [List.lookup_eq_some_iff]
  constructor
  · rintro ⟨before, after, rfl, -⟩
    simp
  · intro hmem
    obtain ⟨before, after, rfl⟩ := List.append_of_mem hmem
    refine ⟨before, after, rfl, fun p hp => ?_⟩
    rw [List.map_append, List.nodup_append] at h
    have hne := h.2.2 p.1 (List.mem_map_of_mem hp) name (by simp)
    simpa using Ne.symm hne

/-- So the order of the parts does not matter to it. -/
theorem lookup_eq_of_perm [BEq κ] [LawfulBEq κ] (h : xs.Perm ys)
    (hnodup : (xs.map (·.1)).Nodup) (key : κ) : xs.lookup key = ys.lookup key := by
  refine Option.ext fun v => ?_
  rw [lookup_eq_some_iff_mem hnodup, lookup_eq_some_iff_mem ((h.map _).nodup_iff.1 hnodup),
    h.mem_iff]

/-- A name is looked up in vain exactly if no part has it. -/
theorem lookup_eq_none_iff_not_mem [BEq κ] [LawfulBEq κ] {name : κ} :
    xs.lookup name = none ↔ name ∉ xs.map (·.1) := by
  rw [List.lookup_eq_none_iff, List.mem_map, not_exists]
  refine forall_congr' fun p => ?_
  rw [not_and, bne_iff_ne, ne_comm]

/-- In a list of named parts made from another list, a name is looked up by the first member that is
given it. -/
theorem lookup_map [BEq κ] [LawfulBEq κ] {β : Type} (nameOf : β → κ) (valueOf : β → α)
    (members : List β) (name : κ) :
    (members.map fun m => (nameOf m, valueOf m)).lookup name =
      (members.find? fun m => nameOf m == name).map valueOf := by
  induction members with
  | nil => rfl
  | cons m members ih =>
    rw [List.map_cons, List.lookup_cons, List.find?_cons, BEq.comm]
    cases nameOf m == name with
    | true => rfl
    | false => exact ih

/-- A name has one part only. -/
theorem eq_of_mem_of_mem (h : (xs.map (·.1)).Nodup) {name : κ} {v w : α} (hv : (name, v) ∈ xs)
    (hw : (name, w) ∈ xs) : v = w :=
  congrArg Prod.snd (List.inj_on_of_nodup_map h hv hw rfl)

theorem exists_of_forall₂ {R : κ × α → κ × α → Prop} (h : List.Forall₂ R xs ys) {p : κ × α}
    (hp : p ∈ xs) : ∃ q ∈ ys, R p q := by
  induction h with
  | nil => cases hp
  | cons hpq _ ih =>
    rcases List.mem_cons.1 hp with rfl | hp
    · exact ⟨_, List.mem_cons_self, hpq⟩
    · obtain ⟨q, hq, hpq⟩ := ih hp
      exact ⟨q, List.mem_cons_of_mem _ hq, hpq⟩

/-- Lists with the same names in the same places agree as soon as parts of one name do. -/
theorem forall₂_of_map_fst_eq {R : κ × α → κ × α → Prop} (h : xs.map (·.1) = ys.map (·.1))
    (hR : ∀ p ∈ xs, ∀ q ∈ ys, p.1 = q.1 → R p q) : List.Forall₂ R xs ys := by
  have hlength : xs.length = ys.length := by
    have := congrArg List.length h
    simpa only [List.length_map] using this
  rw [← List.forall₂_eq_eq_eq, List.forall₂_map_left_iff, List.forall₂_map_right_iff] at h
  refine List.forall₂_iff_zip.2 ⟨hlength, fun {p q} hpq => ?_⟩
  obtain ⟨hp, hq⟩ := List.of_mem_zip hpq
  exact hR p hp q hq (List.forall₂_zip h hpq)

/-- Lists with the same names in the same places agree when they do up to order. -/
theorem eq_of_perm_of_map_fst_eq (hnodup : (xs.map (·.1)).Nodup)
    (hnames : xs.map (·.1) = ys.map (·.1)) (h : xs.Perm ys) : xs = ys := by
  rw [← List.forall₂_eq_eq_eq]
  refine forall₂_of_map_fst_eq hnames ?_
  intro p hp q hq hname
  exact List.inj_on_of_nodup_map hnodup hp (h.mem_iff.2 hq) hname

/-- Lists of as many parts as each other have the same names when every part on the left has one of
its name on the right. -/
theorem map_fst_perm (hxs : (xs.map (·.1)).Nodup) (hlength : xs.length = ys.length)
    (h : ∀ p ∈ xs, ∃ q ∈ ys, p.1 = q.1) : (xs.map (·.1)).Perm (ys.map (·.1)) := by
  have hsubset : xs.map (·.1) ⊆ ys.map (·.1) := by
    intro name hname
    obtain ⟨p, hp, rfl⟩ := List.mem_map.1 hname
    obtain ⟨q, hq, hpq⟩ := h p hp
    exact hpq ▸ List.mem_map_of_mem hq
  refine (List.subperm_of_subset hxs hsubset).perm_of_length_le ?_
  rw [List.length_map, List.length_map]
  exact Nat.le_of_eq hlength.symm

/-- Lists whose names come from two classes agree up to order when they do class by class. -/
theorem append_perm_append_iff {names : List String} {as bs cs ds : List (String × α)}
    (has : ∀ p ∈ as, p.1 ∈ names) (hbs : ∀ p ∈ bs, p.1 ∈ names) (hcs : ∀ p ∈ cs, p.1 ∉ names)
    (hds : ∀ p ∈ ds, p.1 ∉ names) : (as ++ cs).Perm (bs ++ ds) ↔ as.Perm bs ∧ cs.Perm ds := by
  have hfilter : ∀ {xs ys : List (String × α)}, (∀ p ∈ xs, p.1 ∈ names) →
      (∀ p ∈ ys, p.1 ∉ names) → (xs ++ ys).filter (fun p => decide (p.1 ∈ names)) = xs ∧
        (xs ++ ys).filter (fun p => !decide (p.1 ∈ names)) = ys := by
    intro xs ys hxs hys
    rw [List.filter_append, List.filter_append]
    constructor
    · rw [List.filter_eq_self.2 fun p hp => by simpa using hxs p hp,
        List.filter_eq_nil_iff.2 fun p hp => by simpa using hys p hp, List.append_nil]
    · rw [List.filter_eq_nil_iff.2 fun p hp => by simpa using hxs p hp,
        List.filter_eq_self.2 fun p hp => by simpa using hys p hp, List.nil_append]
  constructor
  · intro h
    have hinside := h.filter fun p => decide (p.1 ∈ names)
    have houtside := h.filter fun p => !decide (p.1 ∈ names)
    rw [(hfilter has hcs).1, (hfilter hbs hds).1] at hinside
    rw [(hfilter has hcs).2, (hfilter hbs hds).2] at houtside
    exact ⟨hinside, houtside⟩
  · rintro ⟨hinside, houtside⟩
    exact hinside.append houtside

end Reshape
