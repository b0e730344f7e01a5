import Reshape.Proofs.Named
import Reshape.Proofs.Sorting
import Reshape.Proofs.Value.TerminalText

/-!
# What canonical text tells about values

The canonical text of a value shows its data and leaves out how it was written down: the order of
fields and the kind of a whole number. Over a class of terminal values of which no two clash,
values have one text exactly when they are equal (`canonicalText_eq_iff`), provided no object holds
a name twice.

Text is compared in two steps. Printing is readable, so equal texts mean equal shapes of what is
printed; and fields sorted by name agree one by one exactly when every field has an equal one under
its name on the other side, which is what equality asks for.
-/

namespace Reshape

/-! ## Fields sorted by name -/

section Sorted

variable {R : Value → Value → Prop} {xs ys : List (String × Value)}

open Value (compareNames)

instance : Std.TransCmp compareNames :=
  inferInstanceAs (Std.TransCmp (compareOn fun a : String × Value => a.1))

theorem map_fst_stableSort_pairwise (xs : List (String × Value)) :
    ((stableSort compareNames xs).map (·.1)).Pairwise fun a b => (compare a b).isLE :=
  List.pairwise_map.2 (@stableSort_pairwise_of_transCmp _ compareNames _ xs)

/-- Sorted by name, two lists of fields agree field by field exactly when they hold as many fields
and each on the left agrees with one on the right. -/
theorem forall₂_stableSort_iff (hxs : (xs.map (·.1)).Nodup) (hys : (ys.map (·.1)).Nodup) :
    List.Forall₂ (fun p q => p.1 = q.1 ∧ R p.2 q.2) (stableSort compareNames xs)
        (stableSort compareNames ys) ↔
      xs.length = ys.length ∧ ∀ p ∈ xs, ∃ q ∈ ys, p.1 = q.1 ∧ R p.2 q.2 := by
  have hpx := stableSort_perm compareNames xs
  have hpy := stableSort_perm compareNames ys
  constructor
  · intro h
    refine ⟨hpx.length_eq.symm.trans (h.length_eq.trans hpy.length_eq), fun p hp => ?_⟩
    obtain ⟨q, hq, hpq⟩ := exists_of_forall₂ h (hpx.mem_iff.2 hp)
    exact ⟨q, hpy.mem_iff.1 hq, hpq⟩
  · rintro ⟨hlength, hall⟩
    have hnames : (stableSort compareNames xs).map (·.1) =
        (stableSort compareNames ys).map (·.1) := by
      refine List.Perm.eq_of_pairwise (fun a b _ _ hab hba => ?_) (map_fst_stableSort_pairwise xs)
        (map_fst_stableSort_pairwise ys) ?_
      · exact Std.LawfulEqCmp.eq_of_compare (Std.OrientedCmp.isLE_antisymm hab hba)
      · have hperm : (xs.map (·.1)).Perm (ys.map (·.1)) := by
          refine map_fst_perm hxs hlength ?_
          intro p hp
          obtain ⟨q, hq, hname, -⟩ := hall p hp
          exact ⟨q, hq, hname⟩
        exact (hpx.map _).trans (hperm.trans (hpy.map _).symm)
    refine forall₂_of_map_fst_eq hnames ?_
    intro p hp q hq hpq
    obtain ⟨q', hq', hname, hR⟩ := hall p (hpx.mem_iff.1 hp)
    obtain rfl := List.inj_on_of_nodup_map hys hq' (hpy.mem_iff.1 hq) (hname.symm.trans hpq)
    exact ⟨hname, hR⟩

end Sorted

/-! ## Values of some class of terminal values -/

namespace Value

open Json

mutual

/-- The values whose terminal values are of a class and whose objects hold no name twice. -/
def Over (T : Value → Prop) : Value → Prop
  | .array items => OverItems T items
  | .object fields => (fields.map (·.1)).Nodup ∧ OverFields T fields
  | v => T v

def OverItems (T : Value → Prop) : List Value → Prop
  | [] => True
  | v :: vs => Over T v ∧ OverItems T vs

def OverFields (T : Value → Prop) : List (String × Value) → Prop
  | [] => True
  | (_, v) :: fields => Over T v ∧ OverFields T fields

end

theorem sameFields_iff_forall₂ {as bs : List (String × Value)} :
    SameFields as bs ↔ List.Forall₂ (fun p q => p.1 = q.1 ∧ SameText p.2 q.2) as bs := by
  induction as generalizing bs with
  | nil => cases bs <;> simp [SameFields]
  | cons p as ih =>
    cases bs with
    | nil => simp [SameFields]
    | cons q bs => rw [SameFields, ih, List.forall₂_cons, and_assoc]

theorem canonicalItems_eq_map (items : List Value) :
    canonicalItems items = items.map canonical := by
  induction items with
  | nil => rfl
  | cons v items ih => rw [canonicalItems, ih, List.map_cons]

theorem canonicalFields_eq_map (fields : List (String × Value)) :
    canonicalFields fields = fields.map fun p => (p.1, p.2.canonical) := by
  induction fields with
  | nil => rfl
  | cons p fields ih => rw [canonicalFields, ih, List.map_cons]

theorem map_fst_canonicalFields (fields : List (String × Value)) :
    (canonicalFields fields).map (·.1) = fields.map (·.1) := by
  rw [canonicalFields_eq_map, List.map_map]
  rfl

theorem length_canonicalFields (fields : List (String × Value)) :
    (canonicalFields fields).length = fields.length := by
  rw [canonicalFields_eq_map, List.length_map]

theorem isTerminal_canonical (v : Value) : v.canonical.isTerminal = v.isTerminal := by
  cases v with
  | float x =>
    rw [canonical]
    by_cases hcanonical : IsCanonicalInt x
    · obtain ⟨n, hn, -⟩ := canonicalFloat_of_isCanonicalInt hcanonical
      rw [hn]
      rfl
    · rw [canonicalFloat_of_not_isCanonicalInt hcanonical]
  | _ => rfl

theorem sameText_iff_of_isTerminal {a b : Value} (ha : a.isTerminal = true) :
    SameText a b ↔ b.isTerminal = true ∧ print .compact 0 a = print .compact 0 b := by
  rw [SameText]
  · rw [ha]
    simp
  · rintro as bs rfl
    cases ha
  · rintro as bs rfl
    cases ha

theorem over_of_isTerminal {T : Value → Prop} {v : Value} (hv : v.isTerminal = true) :
    v.Over T ↔ T v := by
  cases v <;> first | rfl | cases hv

theorem isTerminal_eq_of_sameText {a b : Value} (h : SameText a b) :
    a.isTerminal = b.isTerminal := by
  cases ha : a.isTerminal with
  | true => exact ((sameText_iff_of_isTerminal ha).1 h).1.symm
  | false =>
    cases b with
    | array _ => rfl
    | object _ => rfl
    | _ => cases a <;> first | exact absurd h.1 Bool.false_ne_true | cases ha

theorem overItems_iff {T : Value → Prop} {items : List Value} :
    OverItems T items ↔ ∀ v ∈ items, v.Over T := by
  induction items with
  | nil => simp [OverItems]
  | cons v items ih => rw [OverItems, ih, List.forall_mem_cons]

theorem overFields_iff {T : Value → Prop} {fields : List (String × Value)} :
    OverFields T fields ↔ ∀ p ∈ fields, p.2.Over T := by
  induction fields with
  | nil => simp [OverFields]
  | cons p fields ih => rw [OverFields, ih, List.forall_mem_cons]

theorem over_of_mem {T : Value → Prop} {fields : List (String × Value)}
    (h : OverFields T fields) {p : String × Value} (hp : p ∈ fields) : p.2.Over T :=
  overFields_iff.1 h p hp

/-- One more field has its equal among some fields, and so do the others. -/
theorem equalFields_cons_iff {p : String × Value} {as bs : List (String × Value)}
    (hbs : (bs.map (·.1)).Nodup) : equalFields (p :: as) bs = true ↔
      (∃ q ∈ bs, p.1 = q.1 ∧ p.2.equal q.2 = true) ∧ equalFields as bs = true := by
  rw [equalFields, Bool.and_eq_true]
  refine and_congr_left fun _ => ?_
  constructor
  · intro hlookup
    split at hlookup
    · next b hb => exact ⟨_, (lookup_eq_some_iff_mem hbs).1 hb, rfl, hlookup⟩
    · cases hlookup
  · rintro ⟨⟨_, b⟩, hb, rfl, hequal⟩
    rw [(lookup_eq_some_iff_mem hbs).2 hb]
    exact hequal

theorem equal_eq_false_of_isTerminal_ne {a b : Value} (h : a.isTerminal ≠ b.isTerminal) :
    a.equal b = false := by
  cases a <;> cases b <;> first | rfl | exact absurd rfl h

/-- A terminal value and one that is not are never written alike, nor equal. -/
theorem sameText_canonical_iff_of_isTerminal_ne {a b : Value} (h : a.isTerminal ≠ b.isTerminal) :
    SameText a.canonical b.canonical ↔ a.equal b = true := by
  rw [equal_eq_false_of_isTerminal_ne h]
  refine iff_of_false (fun hsame => h ?_) Bool.false_ne_true
  rw [← isTerminal_canonical a, ← isTerminal_canonical b, isTerminal_eq_of_sameText hsame]

/-- A class of terminal values without two that clash. -/
def ClashFree (T : Value → Prop) : Prop := ∀ t u, T t → T u → ¬Clash t u

section

variable {T : Value → Prop}

theorem sameText_canonical_iff_of_isTerminal (hT : ClashFree T) {a b : Value} (ha : a.Over T)
    (hb : b.Over T) (hterminal : a.isTerminal = true) :
    SameText a.canonical b.canonical ↔ a.equal b = true := by
  cases hb' : b.isTerminal with
  | true =>
    have hclash := hT a b ((over_of_isTerminal hterminal).1 ha) ((over_of_isTerminal hb').1 hb)
    rw [sameText_iff_of_isTerminal ((isTerminal_canonical a).trans hterminal),
      isTerminal_canonical, hb', eq_self, true_and]
    exact (print_iff_equal_iff hterminal hb').2 hclash
  | false => exact sameText_canonical_iff_of_isTerminal_ne (by rw [hterminal, hb']; decide)

mutual

/-- Values without a clash between their terminal values have one canonical text exactly when they
are equal. -/
theorem sameText_canonical_iff (hT : ClashFree T) (a b : Value) (ha : a.Over T) (hb : b.Over T) :
    SameText a.canonical b.canonical ↔ a.equal b = true := by
  cases hterminal : a.isTerminal with
  | true => exact sameText_canonical_iff_of_isTerminal hT ha hb hterminal
  | false =>
    cases a with
    | array as =>
      cases b with
      | array bs => exact sameItems_canonicalItems_iff hT as bs ha hb
      | object bs => exact iff_of_false (fun h => Bool.false_ne_true h.1) Bool.false_ne_true
      | _ => exact sameText_canonical_iff_of_isTerminal_ne Bool.false_ne_true
    | object as =>
      cases b with
      | object bs =>
        rw [canonical, canonical, SameText, equal, Bool.and_eq_true, beq_iff_eq,
          sameFields_iff_forall₂,
          forall₂_stableSort_iff (by rw [map_fst_canonicalFields]; exact ha.1)
            (by rw [map_fst_canonicalFields]; exact hb.1),
          length_canonicalFields, length_canonicalFields,
          forall_mem_fields_iff hT as bs ha.2 hb.2 hb.1]
      | array bs => exact iff_of_false (fun h => Bool.false_ne_true h.1) Bool.false_ne_true
      | _ => exact sameText_canonical_iff_of_isTerminal_ne Bool.false_ne_true
    | _ => cases hterminal

theorem sameItems_canonicalItems_iff (hT : ClashFree T) (as bs : List Value) (ha : OverItems T as)
    (hb : OverItems T bs) :
    SameItems (canonicalItems as) (canonicalItems bs) ↔ equalItems as bs = true := by
  cases as with
  | nil => cases bs <;> simp [canonicalItems, SameItems, equalItems]
  | cons a as =>
    cases bs with
    | nil => simp [canonicalItems, SameItems, equalItems]
    | cons b bs =>
      rw [canonicalItems, canonicalItems, SameItems, equalItems, Bool.and_eq_true,
        sameText_canonical_iff hT a b ha.1 hb.1, sameItems_canonicalItems_iff hT as bs ha.2 hb.2]

/-- Every field on the left has an equal one on the right. -/
theorem forall_mem_fields_iff (hT : ClashFree T) (as bs : List (String × Value))
    (ha : OverFields T as) (hb : OverFields T bs) (hnames : (bs.map (·.1)).Nodup) :
    (∀ p ∈ canonicalFields as, ∃ q ∈ canonicalFields bs, p.1 = q.1 ∧ SameText p.2 q.2) ↔
      equalFields as bs = true := by
  cases as with
  | nil => simp [canonicalFields, equalFields]
  | cons p as =>
    have hequal : ∀ q ∈ bs, (SameText p.2.canonical q.2.canonical ↔ p.2.equal q.2 = true) :=
      fun q hq => sameText_canonical_iff hT p.2 q.2 ha.1 (over_of_mem hb hq)
    rw [canonicalFields, List.forall_mem_cons, equalFields_cons_iff hnames,
      forall_mem_fields_iff hT as bs ha.2 hb hnames, canonicalFields_eq_map]
    simp only [List.mem_map, exists_exists_and_eq_and]
    refine and_congr_left fun _ => exists_congr fun q => and_congr_right fun hq => ?_
    rw [hequal q hq]

end

/-- Over a class without clashes values share a canonical text exactly when they are equal. -/
theorem canonicalText_eq_iff (hT : ClashFree T) {a b : Value} (ha : a.Over T) (hb : b.Over T) :
    a.canonicalText = b.canonicalText ↔ a.equal b = true := by
  rw [canonicalText, canonicalText, compact, compact, String.ofList_inj, print_compact_eq_iff,
    sameText_canonical_iff hT a b ha hb]

end

/-- Two terminal values clash exactly when their canonical texts do not tell whether they are equal.
-/
theorem canonicalText_iff_equal_iff {t u : Value} (ht : t.isTerminal = true)
    (hu : u.isTerminal = true) :
    (t.canonicalText = u.canonicalText ↔ t.equal u = true) ↔ ¬Clash t u := by
  rw [canonicalText, canonicalText, compact, compact, String.ofList_inj, print_iff_equal_iff ht hu]

end Value

end Reshape
