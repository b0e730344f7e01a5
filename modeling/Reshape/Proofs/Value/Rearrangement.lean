import Reshape.Proofs.Value.CanonicalText

/-!
# Canonical text and the order of fields

Two values are the same up to the order of fields when the fields of their objects, at every depth,
can be put into one order (`Value.Rearranged`). Among values without binary64 numbers that is all
that equality leaves open, and all that canonical text leaves out: what is written differently is
different, whatever characters its texts and names are made of.
-/

namespace Reshape

section Named

variable {R : Value → Value → Prop} {xs ys : List (String × Value)}

/-- Fields agree one by one with a rearrangement of others exactly when there are as many of them
and each agrees with one of its name. -/
theorem exists_perm_forall₂_iff (hxs : (xs.map (·.1)).Nodup) (hys : (ys.map (·.1)).Nodup) :
    (∃ zs, List.Forall₂ (fun p q => p.1 = q.1 ∧ R p.2 q.2) xs zs ∧ zs.Perm ys) ↔
      xs.length = ys.length ∧ ∀ p ∈ xs, ∃ q ∈ ys, p.1 = q.1 ∧ R p.2 q.2 := by
  constructor
  · rintro ⟨zs, hall, hperm⟩
    refine ⟨hall.length_eq.trans hperm.length_eq, fun p hp => ?_⟩
    obtain ⟨q, hq, hpq⟩ := exists_of_forall₂ hall hp
    exact ⟨q, hperm.mem_iff.1 hq, hpq⟩
  · intro h
    -- Both lists sorted by name agree; the order of the left one carries over to the right.
    have hsorted := (forall₂_stableSort_iff hxs hys).2 h
    obtain ⟨zs, hall, hperm⟩ :=
      List.perm_comp_forall₂ (stableSort_perm Value.compareNames xs).symm hsorted
    exact ⟨zs, hall, hperm.trans (stableSort_perm Value.compareNames ys)⟩

end Named

namespace Value

mutual

/-- Whether two values are the same up to the order of the fields of their objects. -/
def Rearranged : Value → Value → Prop
  | .array as, .array bs => RearrangedItems as bs
  | .object as, .object bs => ∃ cs, RearrangedFields as cs ∧ cs.Perm bs
  | a, b => a = b

/-- The same item by item. -/
def RearrangedItems : List Value → List Value → Prop
  | [], [] => True
  | a :: as, b :: bs => Rearranged a b ∧ RearrangedItems as bs
  | _, _ => False

/-- The same field by field, under the same names. -/
def RearrangedFields : List (String × Value) → List (String × Value) → Prop
  | [], [] => True
  | (m, a) :: as, (n, b) :: bs => m = n ∧ Rearranged a b ∧ RearrangedFields as bs
  | _, _ => False

end

theorem rearrangedItems_iff_forall₂ {as bs : List Value} :
    RearrangedItems as bs ↔ List.Forall₂ Rearranged as bs := by
  induction as generalizing bs with
  | nil => cases bs <;> simp [RearrangedItems]
  | cons a as ih =>
    cases bs with
    | nil => simp [RearrangedItems]
    | cons b bs => rw [RearrangedItems, ih, List.forall₂_cons]

theorem rearrangedFields_iff_forall₂ {as bs : List (String × Value)} :
    RearrangedFields as bs ↔
      List.Forall₂ (fun p q => p.1 = q.1 ∧ Rearranged p.2 q.2) as bs := by
  induction as generalizing bs with
  | nil => cases bs <;> simp [RearrangedFields]
  | cons p as ih =>
    cases bs with
    | nil => simp [RearrangedFields]
    | cons q bs => rw [RearrangedFields, ih, List.forall₂_cons, and_assoc]

/-- Everything but a binary64 number. -/
def NoFloat (v : Value) : Prop := ∀ x, v ≠ .float x

/-- A value without binary64 numbers at any depth, whose objects hold no name twice. -/
def FloatFree (v : Value) : Prop := v.Over NoFloat

theorem eq_null_of_isWrittenNull {v : Value} (hv : v.NoFloat) (h : v.isWrittenNull = true) :
    v = .null := by
  cases v with
  | null => rfl
  | float x => exact absurd rfl (hv x)
  | _ => cases h

/-- Only binary64 numbers clash. -/
theorem clashFree_noFloat : ClashFree NoFloat := by
  intro t u ht hu hclash
  cases hclash with
  | null ht' hu' h =>
    rw [eq_null_of_isWrittenNull ht ht', eq_null_of_isWrittenNull hu hu'] at h
    cases h
  | intFloat _ _ => exact hu _ rfl
  | floatInt _ _ => exact ht _ rfl

theorem rearranged_iff_eq_of_isTerminal {a b : Value} (ha : a.isTerminal = true) :
    a.Rearranged b ↔ a = b := by
  cases a with
  | array _ => cases ha
  | object _ => cases ha
  | _ => rw [Rearranged] <;> simp

/-- A terminal value other than a binary64 number is equal to itself only. -/
theorem equal_iff_eq_of_isTerminal {a b : Value} (ha : a.isTerminal = true) (hfloat : a.NoFloat)
    (hfloat' : b.isTerminal = true → b.NoFloat) : a.equal b = true ↔ a = b := by
  cases a with
  | array _ => cases ha
  | object _ => cases ha
  | float x => exact absurd rfl (hfloat x)
  | _ =>
    cases b with
    | float x => exact absurd rfl (hfloat' rfl x)
    | _ => simp [equal]

mutual

/-- Values without binary64 numbers are equal exactly when they are the same up to the order of
fields. -/
theorem equal_iff_rearranged (a b : Value) (ha : a.FloatFree) (hb : b.FloatFree) :
    a.equal b = true ↔ a.Rearranged b := by
  cases hterminal : a.isTerminal with
  | true =>
    rw [rearranged_iff_eq_of_isTerminal hterminal]
    exact equal_iff_eq_of_isTerminal hterminal ((over_of_isTerminal hterminal).1 ha)
      fun hb' => (over_of_isTerminal hb').1 hb
  | false =>
    cases a with
    | array as =>
      cases b with
      | array bs => exact equalItems_iff_rearrangedItems as bs ha hb
      | _ => simp [equal, Rearranged]
    | object as =>
      cases b with
      | object bs =>
        rw [equal, Bool.and_eq_true, beq_iff_eq, Rearranged,
          equalFields_iff_rearranged as bs ha.2 hb.2 hb.1]
        simp only [rearrangedFields_iff_forall₂]
        exact (exists_perm_forall₂_iff ha.1 hb.1).symm
      | _ => simp [equal, Rearranged]
    | _ => cases hterminal

theorem equalItems_iff_rearrangedItems (as bs : List Value) (ha : OverItems NoFloat as)
    (hb : OverItems NoFloat bs) : equalItems as bs = true ↔ RearrangedItems as bs := by
  cases as with
  | nil => cases bs <;> simp [equalItems, RearrangedItems]
  | cons a as =>
    cases bs with
    | nil => simp [equalItems, RearrangedItems]
    | cons b bs =>
      rw [equalItems, RearrangedItems, Bool.and_eq_true, equal_iff_rearranged a b ha.1 hb.1,
        equalItems_iff_rearrangedItems as bs ha.2 hb.2]

/-- Every field on the left is found equal on the right exactly when it has one there that is the
same. -/
theorem equalFields_iff_rearranged (as bs : List (String × Value)) (ha : OverFields NoFloat as)
    (hb : OverFields NoFloat bs) (hnames : (bs.map (·.1)).Nodup) :
    equalFields as bs = true ↔ ∀ p ∈ as, ∃ q ∈ bs, p.1 = q.1 ∧ Rearranged p.2 q.2 := by
  cases as with
  | nil => simp [equalFields]
  | cons p as =>
    have hequal : ∀ q ∈ bs, (p.2.equal q.2 = true ↔ p.2.Rearranged q.2) :=
      fun q hq => equal_iff_rearranged p.2 q.2 ha.1 (over_of_mem hb hq)
    rw [equalFields_cons_iff hnames, equalFields_iff_rearranged as bs ha.2 hb hnames,
      List.forall_mem_cons]
    refine and_congr_left fun _ => exists_congr fun q => and_congr_right fun hq => ?_
    rw [hequal q hq]

end

/-- Values without binary64 numbers have one canonical text exactly when they are the same up to
the order of fields, which is also when they are equal. -/
theorem canonicalText_eq_iff_rearranged {a b : Value} (ha : a.FloatFree) (hb : b.FloatFree) :
    (a.canonicalText = b.canonicalText ↔ a.Rearranged b) ∧
      (a.equal b = true ↔ a.Rearranged b) := by
  have hequal := equal_iff_rearranged a b ha hb
  exact ⟨(canonicalText_eq_iff clashFree_noFloat ha hb).trans hequal, hequal⟩

/-- The order of fields does not show, at any depth; whether a text or a list of texts stands in a
field does, however alike the two are written. -/
theorem canonicalText_of_nested_fields :
    let tag := Value.object [("b", .int (-1)), ("a\n", .null)]
    let tag' := Value.object [("a\n", .null), ("b", .int (-1))]
    let a := Value.object [("q", .array [tag, .string "\",\""]), ("p", .bool true)]
    let b := Value.object [("p", .bool true), ("q", .array [tag', .string "\",\""])]
    let c := Value.object [("p", .bool true), ("q", .array [tag', .string "", .string ""])]
    a.FloatFree ∧ b.FloatFree ∧ c.FloatFree ∧ a.canonicalText = b.canonicalText ∧
      a.canonicalText ≠ c.canonicalText := by
  intro tag tag' a b c
  have ha : a.FloatFree := by simp [a, tag, FloatFree, Over, OverItems, OverFields, NoFloat]
  have hb : b.FloatFree := by simp [b, tag', FloatFree, Over, OverItems, OverFields, NoFloat]
  have hc : c.FloatFree := by simp [c, tag', FloatFree, Over, OverItems, OverFields, NoFloat]
  obtain ⟨htext, hequal⟩ := canonicalText_eq_iff_rearranged ha hb
  obtain ⟨htext', hequal'⟩ := canonicalText_eq_iff_rearranged ha hc
  refine ⟨ha, hb, hc, htext.2 (hequal.1 (by decide)), fun hsame => ?_⟩
  exact absurd (hequal'.2 (htext'.1 hsame)) (by decide)

end Value

end Reshape
