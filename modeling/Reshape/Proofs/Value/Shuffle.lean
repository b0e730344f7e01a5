import Reshape.Proofs.Related
import Reshape.Proofs.Value.Rearrangement
import Reshape.Node.Source

/-!
# Values with shuffled fields

Two values are shuffled here when they are the same but for the order of the fields of their
objects, and fields of one name keep their order (`Value.Shuffled`). Where no name stands twice that
is the same as being rearranged. Without that assumption it is the finer relation, and the one that
every lookup, the canonical text and the comparisons of values do not see.
-/

namespace Reshape

/-! ## Shuffled lists -/

/-- Whether two lists hold the same items and those of one key in the same order. -/
inductive Shuffle {α κ : Type} (key : α → κ) : List α → List α → Prop
  | nil : Shuffle key [] []
  | cons (x : α) {xs ys : List α} (h : Shuffle key xs ys) : Shuffle key (x :: xs) (x :: ys)
  | swap {x y : α} (h : key x ≠ key y) (xs : List α) : Shuffle key (x :: y :: xs) (y :: x :: xs)
  | trans {xs ys zs : List α} (h : Shuffle key xs ys) (h' : Shuffle key ys zs) : Shuffle key xs zs

namespace Shuffle

variable {α β κ : Type} {key : α → κ} {xs ys : List α}

theorem refl (xs : List α) : Shuffle key xs xs := by
  induction xs with
  | nil => exact .nil
  | cons x xs ih => exact .cons x ih

theorem perm (h : Shuffle key xs ys) : xs.Perm ys := by
  induction h with
  | nil => exact .nil
  | cons x _ ih => exact .cons x ih
  | swap _ xs => exact .swap _ _ xs
  | trans _ _ ih ih' => exact ih.trans ih'

/-- Items with keys of their own can be put into any order. -/
theorem of_perm (h : xs.Perm ys) (hkeys : (xs.map key).Nodup) : Shuffle key xs ys := by
  induction h with
  | nil => exact .nil
  | cons x _ ih => exact .cons x (ih (List.nodup_cons.1 hkeys).2)
  | swap x y xs =>
    refine .swap (fun heq => (List.nodup_cons.1 hkeys).1 ?_) xs
    exact List.mem_cons.2 (.inl heq)
  | trans h _ ih ih' => exact .trans (ih hkeys) (ih' ((h.map key).nodup_iff.1 hkeys))

theorem append_left (h : Shuffle key xs ys) (front : List α) :
    Shuffle key (front ++ xs) (front ++ ys) := by
  induction front with
  | nil => exact h
  | cons x front ih => exact .cons x ih

/-- A selection that leaves the keys as they are keeps lists shuffled. -/
theorem filterMap {key' : β → κ} {g : α → Option β} (h : Shuffle key xs ys)
    (hg : ∀ x u, g x = some u → key' u = key x) :
    Shuffle key' (xs.filterMap g) (ys.filterMap g) := by
  induction h with
  | nil => exact .nil
  | @cons x xs ys _ ih =>
    rw [List.filterMap_cons, List.filterMap_cons]
    cases g x with
    | none => exact ih
    | some u => exact .cons u ih
  | @swap x y hne xs =>
    rw [List.filterMap_cons, List.filterMap_cons, List.filterMap_cons, List.filterMap_cons]
    cases hx : g x with
    | none => cases g y <;> exact refl _
    | some u =>
      cases hy : g y with
      | none => exact refl _
      | some v =>
        refine .swap ?_ _
        rw [hg x u hx, hg y v hy]
        exact hne
  | trans _ _ ih ih' => exact .trans ih ih'

theorem map {key' : β → κ} {g : α → β} (h : Shuffle key xs ys) (hg : ∀ x, key' (g x) = key x) :
    Shuffle key' (xs.map g) (ys.map g) := by
  rw [← List.filterMap_eq_map]
  refine h.filterMap fun x u hu => ?_
  obtain rfl := Option.some_inj.1 hu
  exact hg x

/-- A lookup does not see that lists are shuffled. -/
theorem lookup_eq [BEq κ] [LawfulBEq κ] {xs ys : List (κ × α)}
    (h : Shuffle (fun p : κ × α => p.1) xs ys) (name : κ) : xs.lookup name = ys.lookup name := by
  induction h with
  | nil => rfl
  | cons p _ ih => rw [List.lookup_cons, List.lookup_cons, ih]
  | @swap p q hne xs =>
    rw [List.lookup_cons, List.lookup_cons, List.lookup_cons, List.lookup_cons]
    by_cases hp : name = p.1
    · have hq : (name == q.1) = false := beq_eq_false_iff_ne.2 (hp ▸ hne)
      rw [hq, hp]
    · rw [beq_eq_false_iff_ne.2 hp]
  | trans _ _ ih ih' => rw [ih, ih']

/-- Sorting does not see it either, if only items of one key tie. -/
theorem stableSort_eq {cmp : α → α → Ordering} [Std.TransCmp cmp]
    (hties : ∀ x y, cmp x y = .eq → key x = key y) (h : Shuffle key xs ys) :
    stableSort cmp xs = stableSort cmp ys := by
  have hfold : ∀ placed : List α,
      xs.foldl (fun placed x => insertDescending cmp x placed) placed =
        ys.foldl (fun placed x => insertDescending cmp x placed) placed := by
    induction h with
    | nil => exact fun _ => rfl
    | cons x _ ih => exact fun placed => ih _
    | @swap x y hne xs =>
      intro placed
      rw [List.foldl_cons, List.foldl_cons, List.foldl_cons, List.foldl_cons]
      cases hcmp : cmp x y with
      | lt => rw [insertDescending_comm hcmp]
      | eq => exact absurd (hties x y hcmp) hne
      | gt => rw [insertDescending_comm (Std.OrientedCmp.lt_of_gt hcmp)]
    | trans _ _ ih ih' => exact fun placed => (ih placed).trans (ih' placed)
  rw [stableSort, stableSort, hfold]

end Shuffle

/-! ## Shuffled values -/

namespace Value

mutual

/-- Whether two values are the same but for the order of the fields of their objects, fields of one
name keeping theirs. -/
def Shuffled : Value → Value → Prop
  | .array as, .array bs => ShuffledItems as bs
  | .object as, .object bs =>
    ∃ cs, ShuffledFields as cs ∧ Shuffle (fun p : String × Value => p.1) cs bs
  | a, b => a = b

/-- The same item by item. -/
def ShuffledItems : List Value → List Value → Prop
  | [], [] => True
  | a :: as, b :: bs => Shuffled a b ∧ ShuffledItems as bs
  | _, _ => False

/-- The same field by field, under the same names. -/
def ShuffledFields : List (String × Value) → List (String × Value) → Prop
  | [], [] => True
  | (m, a) :: as, (n, b) :: bs => m = n ∧ Shuffled a b ∧ ShuffledFields as bs
  | _, _ => False

end

theorem shuffledItems_iff_forall₂ {as bs : List Value} :
    ShuffledItems as bs ↔ List.Forall₂ Shuffled as bs := by
  induction as generalizing bs with
  | nil => cases bs <;> simp [ShuffledItems]
  | cons a as ih =>
    cases bs with
    | nil => simp [ShuffledItems]
    | cons b bs => rw [ShuffledItems, ih, List.forall₂_cons]

/-- Whether two lists hold shuffled values under the same keys. -/
def SameKeys {κ : Type} (xs ys : List (κ × Value)) : Prop :=
  List.Forall₂ (fun p q => p.1 = q.1 ∧ Shuffled p.2 q.2) xs ys

theorem shuffledFields_iff_sameKeys {as bs : List (String × Value)} :
    ShuffledFields as bs ↔ SameKeys as bs := by
  unfold SameKeys
  induction as generalizing bs with
  | nil => cases bs <;> simp [ShuffledFields]
  | cons p as ih =>
    cases bs with
    | nil => simp [ShuffledFields]
    | cons q bs => rw [ShuffledFields, ih, List.forall₂_cons, and_assoc]

theorem shuffled_refl (a : Value) : a.Shuffled a := by
  induction a using Value.induction with
  | terminal v hv => cases v <;> first | rfl | cases hv
  | array items ih => exact shuffledItems_iff_forall₂.2 (List.forall₂_same.2 ih)
  | object fields ih =>
    refine ⟨fields, shuffledFields_iff_sameKeys.2 (List.forall₂_same.2 ?_), .refl fields⟩
    exact fun p hp => ⟨rfl, ih p hp⟩

theorem Shuffled.of_eq {a b : Value} (h : a = b) : a.Shuffled b := h ▸ shuffled_refl a

theorem Shuffled.eq_of_isTerminal {a b : Value} (h : a.Shuffled b) (ha : a.isTerminal = true) :
    b = a := by
  cases a with
  | array _ => cases ha
  | object _ => cases ha
  | _ => exact (show _ = b by simpa [Shuffled] using h).symm

theorem Shuffled.exists_items {as : List Value} {b : Value} (h : (Value.array as).Shuffled b) :
    ∃ bs, b = .array bs ∧ List.Forall₂ Shuffled as bs := by
  cases b with
  | array bs => exact ⟨bs, rfl, shuffledItems_iff_forall₂.1 h⟩
  | _ => cases h

theorem Shuffled.exists_fields {as : List (String × Value)} {b : Value}
    (h : (Value.object as).Shuffled b) : ∃ bs cs, b = .object bs ∧ SameKeys as cs ∧
      Shuffle (fun p : String × Value => p.1) cs bs := by
  cases b with
  | object bs =>
    obtain ⟨cs, hfields, hshuffle⟩ := h
    exact ⟨bs, cs, rfl, shuffledFields_iff_sameKeys.1 hfields, hshuffle⟩
  | _ => cases h

/-- What holds of every terminal value and itself, and of arrays and of objects as soon as it holds
of what they hold, holds of all shuffled values. -/
@[elab_as_elim]
theorem Shuffled.induction {P : Value → Value → Prop}
    (terminal : ∀ v, v.isTerminal = true → P v v)
    (array : ∀ as bs, List.Forall₂ (fun a b => Shuffled a b ∧ P a b) as bs →
      P (.array as) (.array bs))
    (object : ∀ as bs cs,
      List.Forall₂ (fun p q => (p.1 = q.1 ∧ Shuffled p.2 q.2) ∧ P p.2 q.2) as cs →
      Shuffle (fun p : String × Value => p.1) cs bs → P (.object as) (.object bs))
    {a b : Value} (h : a.Shuffled b) : P a b := by
  induction a using Value.induction generalizing b with
  | terminal v hv => exact h.eq_of_isTerminal hv ▸ terminal v hv
  | array items ih =>
    obtain ⟨bs, rfl, hitems⟩ := h.exists_items
    exact array _ _ (forall₂_and_of_mem hitems fun v hv b hb => ih v hv hb)
  | object fields ih =>
    obtain ⟨bs, cs, rfl, hfields, hshuffle⟩ := h.exists_fields
    exact object _ _ cs (forall₂_and_of_mem hfields fun p hp q hpq => ih p hp hpq.2) hshuffle

/-! ### Kinds and comparisons -/

/-- What is left of a value without what an array or an object holds. -/
def shell : Value → Value
  | .array _ => .array []
  | .object _ => .object []
  | v => v

theorem Shuffled.shell_eq {a b : Value} (h : a.Shuffled b) : a.shell = b.shell := by
  refine Shuffled.induction ?_ ?_ ?_ h
  · exact fun _ _ => rfl
  · exact fun _ _ _ => rfl
  · exact fun _ _ _ _ _ => rfl

/-- What does not look into arrays and objects does not see that values are shuffled. -/
theorem Shuffled.congr {α : Type} {f : Value → α} (hf : ∀ v, f v = f v.shell) {a b : Value}
    (h : a.Shuffled b) : f a = f b := by
  rw [hf a, h.shell_eq, ← hf b]

theorem Shuffled.isTerminal_eq {a b : Value} (h : a.Shuffled b) : a.isTerminal = b.isTerminal :=
  h.congr fun v => by cases v <;> rfl

theorem Shuffled.isArray_eq {a b : Value} (h : a.Shuffled b) : a.isArray = b.isArray :=
  h.congr fun v => by cases v <;> rfl

theorem Shuffled.compare?_left {a b : Value} (h : a.Shuffled b) (c : Value) :
    a.compare? c = b.compare? c :=
  h.congr (f := fun v => v.compare? c) fun v => by cases v <;> cases c <;> rfl

theorem Shuffled.compare?_right {a b : Value} (h : a.Shuffled b) (c : Value) :
    c.compare? a = c.compare? b :=
  h.congr (f := fun v => c.compare? v) fun v => by cases v <;> cases c <;> rfl

end Value

theorem compareForSort_map_shell (a b : Option Value) :
    compareForSort (a.map Value.shell) (b.map Value.shell) = compareForSort a b := by
  cases a with
  | none =>
    cases b with
    | none => rfl
    | some b => cases b <;> rfl
  | some a =>
    cases b with
    | none => cases a <;> rfl
    | some b => cases a <;> cases b <;> rfl

namespace Value

/-! ### Equality and canonical text -/

theorem equalFields_eq_all (as xs : List (String × Value)) :
    equalFields as xs = as.all fun p => (xs.lookup p.1).any p.2.equal := by
  induction as with
  | nil => rfl
  | cons p as ih =>
    rw [equalFields, List.all_cons, ih]
    cases xs.lookup p.1 <;> rfl

theorem equalItems_congr {as bs : List Value}
    (h : List.Forall₂ (fun a b => ∀ x, equal a x = equal b x) as bs) (xs : List Value) :
    equalItems as xs = equalItems bs xs := by
  induction h generalizing xs with
  | nil => rfl
  | cons hab _ ih =>
    cases xs with
    | nil => rfl
    | cons x xs => rw [equalItems, equalItems, hab, ih]

theorem equalFields_congr {as bs : List (String × Value)}
    (h : List.Forall₂ (fun p q => p.1 = q.1 ∧ ∀ x, equal p.2 x = equal q.2 x) as bs)
    (xs : List (String × Value)) : equalFields as xs = equalFields bs xs := by
  rw [equalFields_eq_all, equalFields_eq_all]
  induction h with
  | nil => rfl
  | cons hpq _ ih => rw [List.all_cons, List.all_cons, ih, hpq.1, funext hpq.2]

/-- Shuffled values are equal to the same values. -/
theorem Shuffled.equal_eq {a b : Value} (h : a.Shuffled b) (x : Value) : a.equal x = b.equal x := by
  refine Shuffled.induction (P := fun a b => ∀ x, a.equal x = b.equal x) ?_ ?_ ?_ h x
  · exact fun _ _ _ => rfl
  · intro as bs hitems x
    cases x with
    | array xs => exact equalItems_congr (hitems.imp fun _ _ h => h.2) xs
    | _ => rfl
  · intro as bs cs hfields hshuffle x
    cases x with
    | object xs =>
      rw [equal, equal, hfields.length_eq.trans hshuffle.perm.length_eq,
        equalFields_congr (hfields.imp fun _ _ h => ⟨h.1.1, h.2⟩), equalFields_eq_all,
        equalFields_eq_all, hshuffle.perm.all_eq]
    | _ => rfl

theorem compareNames_ties (p q : String × Value) (h : compareNames p q = .eq) : p.1 = q.1 :=
  Std.LawfulEqCmp.eq_of_compare h

/-- Shuffled values have one canonical form. -/
theorem Shuffled.canonical_eq {a b : Value} (h : a.Shuffled b) : a.canonical = b.canonical := by
  refine Shuffled.induction ?_ ?_ ?_ h
  · exact fun _ _ => rfl
  · intro as bs hitems
    rw [canonical, canonical, canonicalItems_eq_map, canonicalItems_eq_map]
    exact congrArg Value.array (map_eq_of_forall₂ (hitems.imp fun _ _ h => h.2))
  · intro as bs cs hfields hshuffle
    have hsame : canonicalFields as = canonicalFields cs := by
      rw [canonicalFields_eq_map, canonicalFields_eq_map]
      exact map_eq_of_forall₂ (hfields.imp fun _ _ h => Prod.ext h.1.1 h.2)
    have hsorted : Shuffle (fun p : String × Value => p.1) (canonicalFields cs)
        (canonicalFields bs) := by
      rw [canonicalFields_eq_map, canonicalFields_eq_map]
      exact hshuffle.map fun _ => rfl
    rw [canonical, canonical, hsame, hsorted.stableSort_eq compareNames_ties]

/-- Shuffled values have one canonical text, whatever stands in them. -/
theorem Shuffled.canonicalText_eq {a b : Value} (h : a.Shuffled b) :
    a.canonicalText = b.canonicalText := by
  rw [canonicalText, canonicalText, h.canonical_eq]

/-! ### Reading -/

theorem SameKeys.lookup {κ : Type} [BEq κ] {xs ys : List (κ × Value)} (h : SameKeys xs ys)
    (key : κ) : Option.Rel Shuffled (xs.lookup key) (ys.lookup key) := by
  induction h with
  | nil => exact .none
  | @cons p q _ _ hpq _ ih =>
    obtain ⟨k, v⟩ := p
    obtain ⟨_, w⟩ := q
    obtain ⟨rfl, hvw⟩ := hpq
    rw [List.lookup_cons, List.lookup_cons]
    cases key == k with
    | false => exact ih
    | true => exact .some hvw

theorem Shuffled.get? {a b : Value} (h : a.Shuffled b) (name : String) :
    Option.Rel Shuffled (a.get? name) (b.get? name) := by
  refine Shuffled.induction ?_ ?_ ?_ h
  · exact fun v _ => rel_same shuffled_refl _
  · exact fun _ _ _ => .none
  · intro as bs cs hfields hshuffle
    have hlookup := SameKeys.lookup (hfields.imp fun _ _ h => h.1) name
    rwa [hshuffle.lookup_eq] at hlookup

theorem Shuffled.at? {a b : Value} (h : a.Shuffled b) (n : Int64) :
    Option.Rel Shuffled (a.at? n) (b.at? n) := by
  refine Shuffled.induction ?_ ?_ ?_ h
  · exact fun v _ => rel_same shuffled_refl _
  · intro as bs hitems
    rw [Value.at?, Value.at?, hitems.length_eq]
    cases place? bs.length n with
    | none => exact .none
    | some i => exact forall₂_getElem? (hitems.imp fun _ _ h => h.1) i
  · exact fun _ _ _ _ _ => .none

theorem Shuffled.index? {a b : Value} (h : a.Shuffled b) (key : Key) :
    Option.Rel Shuffled (a.index? key) (b.index? key) := by
  cases key with
  | name name => exact h.get? name
  | position n => exact h.at? n

theorem Shuffled.read {a b : Value} (h : a.Shuffled b) (key : Key) :
    Option.Rel Shuffled (key.read a) (key.read b) := by
  cases key with
  | name name => exact h.get? name
  | position n =>
    cases a with
    | object as =>
      obtain ⟨bs, cs, rfl, -⟩ := h.exists_fields
      rw [Key.read, Key.read]
      split
      · exact .some h
      · exact .none
    | array as =>
      obtain ⟨bs, rfl, -⟩ := h.exists_items
      exact h.at? n
    | _ =>
      obtain rfl := h.eq_of_isTerminal rfl
      exact rel_same shuffled_refl _

theorem Shuffled.width_eq {a b : Value} (h : a.Shuffled b) : a.width = b.width := by
  refine Shuffled.induction ?_ ?_ ?_ h
  · exact fun _ _ => rfl
  · exact fun as bs hitems => hitems.length_eq
  · exact fun _ _ _ _ _ => rfl

theorem Shuffled.resolve_eq {a b : Value} (h : a.Shuffled b) (key : Key) :
    key.resolve a = key.resolve b := by
  cases key with
  | name name => rfl
  | position n => rw [Key.resolve, Key.resolve, h.width_eq]

/-! ### Rearranged values -/

theorem Shuffled.rearranged {a b : Value} (h : a.Shuffled b) : a.Rearranged b := by
  refine Shuffled.induction ?_ ?_ ?_ h
  · exact fun v hv => (rearranged_iff_eq_of_isTerminal hv).2 rfl
  · exact fun as bs hitems => rearrangedItems_iff_forall₂.2 (hitems.imp fun _ _ h => h.2)
  · intro as bs cs hfields hshuffle
    refine ⟨cs, rearrangedFields_iff_forall₂.2 ?_, hshuffle.perm⟩
    exact hfields.imp fun _ _ h => ⟨h.1.1, h.2⟩

/-- A value whose objects hold no name twice. -/
def DistinctNames (v : Value) : Prop := v.Over fun _ => True

/-- Where no name stands twice, fields that are rearranged are shuffled. -/
theorem Rearranged.shuffled {a b : Value} (h : a.Rearranged b) (hnames : a.DistinctNames) :
    a.Shuffled b := by
  induction a using Value.induction generalizing b with
  | terminal v hv => exact .of_eq ((rearranged_iff_eq_of_isTerminal hv).1 h)
  | array items ih =>
    cases b with
    | array bs =>
      have hitems := forall₂_and_of_mem (rearrangedItems_iff_forall₂.1 h)
        fun v hv b hb => ih v hv hb (overItems_iff.1 hnames v hv)
      exact shuffledItems_iff_forall₂.2 (hitems.imp fun _ _ h => h.2)
    | _ => cases h
  | object fields ih =>
    cases b with
    | object bs =>
      obtain ⟨cs, hfields, hperm⟩ := h
      have hsame := forall₂_and_of_mem (rearrangedFields_iff_forall₂.1 hfields)
        fun p hp q hpq => ih p hp hpq.2 (over_of_mem hnames.2 hp)
      have hkeys : fields.map (·.1) = cs.map (·.1) :=
        map_eq_of_forall₂ (hsame.imp fun _ _ h => h.1.1)
      refine ⟨cs, shuffledFields_iff_sameKeys.2 (hsame.imp fun _ _ h => ⟨h.1.1, h.2⟩), ?_⟩
      exact .of_perm hperm (hkeys ▸ hnames.1)
    | _ => cases h

end Value

end Reshape
