import Reshape.Proofs.Binary64.Whole
import Reshape.Proofs.Value.Order
import Reshape.Proofs.Value.Shuffle

/-!
# How far equality is an equivalence

A value is equal to itself unless it holds a NaN, and it does not matter from which side two values
are compared. Whether equality carries over along a chain is another matter. Two integers are
compared as integers, but an integer and a binary64 number as binary64 numbers, so a binary64 number
is equal to every integer that becomes it. Where it stands between two of them, at whatever depth,
the chain breaks (`Split`), and it breaks nowhere else (`equality_equivalence_unless_split`).
-/

namespace Reshape.Value

open Binary64 (isNaN)

/-! ## Parts of equal values -/

/-- Arrays are equal when they are of one length and equal place by place. -/
theorem equal_array_iff {as bs : List Value} : (array as).equal (array bs) = true ↔
    as.length = bs.length ∧
      ∀ (i : Nat) (a b : Value), as[i]? = some a → bs[i]? = some b → a.equal b = true := by
  rw [equal]
  induction as generalizing bs with
  | nil => cases bs <;> simp [equalItems]
  | cons a as ih =>
    cases bs with
    | nil => simp [equalItems]
    | cons b bs =>
      rw [equalItems, Bool.and_eq_true, ih, List.length_cons, List.length_cons,
        Nat.add_right_cancel_iff]
      constructor
      · rintro ⟨hab, hlength, hitems⟩
        refine ⟨hlength, fun i a' b' ha hb => ?_⟩
        cases i with
        | zero =>
          obtain rfl := Option.some_inj.1 ha
          obtain rfl := Option.some_inj.1 hb
          exact hab
        | succ i => exact hitems i a' b' ha hb
      · rintro ⟨hlength, hitems⟩
        exact ⟨hitems 0 a b rfl rfl, hlength, fun i => hitems (i + 1)⟩

theorem equalFields_iff {as bs : List (String × Value)} (hbs : (bs.map (·.1)).Nodup) :
    equalFields as bs = true ↔ ∀ p ∈ as, ∃ q ∈ bs, p.1 = q.1 ∧ p.2.equal q.2 = true := by
  induction as with
  | nil => simp [equalFields]
  | cons p as ih => rw [equalFields_cons_iff hbs, ih, List.forall_mem_cons]

/-- Objects are equal when they have the same names and are equal name by name. -/
theorem equal_object_iff {as bs : List (String × Value)} (has : (as.map (·.1)).Nodup)
    (hbs : (bs.map (·.1)).Nodup) : (object as).equal (object bs) = true ↔
      (as.map (·.1)).Perm (bs.map (·.1)) ∧ ∀ (name : String) (a b : Value),
        (name, a) ∈ as → (name, b) ∈ bs → a.equal b = true := by
  rw [equal, Bool.and_eq_true, beq_iff_eq, equalFields_iff hbs]
  constructor
  · rintro ⟨hlength, hfields⟩
    constructor
    · refine map_fst_perm has hlength fun p hp => ?_
      obtain ⟨q, hq, hname, -⟩ := hfields p hp
      exact ⟨q, hq, hname⟩
    · intro name a b ha hb
      obtain ⟨⟨_, b'⟩, hb', rfl, hab⟩ := hfields _ ha
      rwa [eq_of_mem_of_mem hbs hb hb']
  · rintro ⟨hnames, hfields⟩
    refine ⟨by simpa using hnames.length_eq, fun p hp => ?_⟩
    obtain ⟨⟨name, b⟩, hb, hname⟩ := List.mem_map.1 (hnames.mem_iff.1 (List.mem_map_of_mem hp))
    obtain rfl : name = p.1 := hname
    exact ⟨_, hb, rfl, hfields _ _ _ hp hb⟩

theorem exists_items_of_equal {as : List Value} {b : Value} (h : (array as).equal b = true) :
    ∃ bs, b = .array bs := by
  cases b with
  | array bs => exact ⟨bs, rfl⟩
  | _ => cases h

theorem exists_fields_of_equal {as : List (String × Value)} {b : Value}
    (h : (object as).equal b = true) : ∃ bs, b = .object bs := by
  cases b with
  | object bs => exact ⟨bs, rfl⟩
  | _ => cases h

/-! ## A value and itself -/

/-- Everything but NaN. -/
def NoNaN (v : Value) : Prop := ∀ x, v = .float x → isNaN x = false

/-- A value without NaN at any depth, whose objects hold no name twice. -/
def NaNFree (v : Value) : Prop := v.Over NoNaN

/-- A value is equal to itself exactly when it holds no NaN. -/
theorem equal_self_iff {a : Value} (ha : a.DistinctNames) : a.equal a = true ↔ a.NaNFree := by
  induction a using Value.induction with
  | terminal a hterminal =>
    rw [NaNFree, over_of_isTerminal hterminal]
    cases a with
    | float x => simp [equal, NoNaN, Binary64.equal_self_iff]
    | array items => cases hterminal
    | object fields => cases hterminal
    | _ => simp [equal, NoNaN]
  | array items ih =>
    rw [equal_array_iff, NaNFree, Over, overItems_iff]
    have hitems := overItems_iff.1 ha
    constructor
    · rintro ⟨-, h⟩ v hv
      obtain ⟨i, hi⟩ := List.mem_iff_getElem?.1 hv
      exact (ih v hv (hitems v hv)).1 (h i v v hi hi)
    · intro h
      refine ⟨rfl, fun i v w hv hw => ?_⟩
      obtain rfl := Option.some_inj.1 (hv.symm.trans hw)
      have hmem := List.mem_of_getElem? hv
      exact (ih v hmem (hitems v hmem)).2 (h v hmem)
  | object fields ih =>
    have hfields := overFields_iff.1 ha.2
    rw [equal_object_iff ha.1 ha.1, NaNFree, Over, overFields_iff]
    constructor
    · rintro ⟨-, h⟩
      refine ⟨ha.1, fun p hp => ?_⟩
      exact (ih p hp (hfields p hp)).1 (h p.1 p.2 p.2 hp hp)
    · rintro ⟨hnames, h⟩
      refine ⟨.refl _, fun name v w hv hw => ?_⟩
      obtain rfl := eq_of_mem_of_mem hnames hv hw
      exact (ih _ hv (hfields _ hv)).2 (h _ hv)

/-! ## Both sides -/

theorem equal_comm_of_isTerminal {a b : Value} (ha : a.isTerminal = true) :
    a.equal b = b.equal a := by
  cases a <;> cases b <;> first
    | rfl
    | exact Bool.beq_comm
    | exact Binary64.equal_comm _ _
    | cases ha

theorem equal_symm {a b : Value} (ha : a.DistinctNames) (hb : b.DistinctNames)
    (h : a.equal b = true) : b.equal a = true := by
  induction a using Value.induction generalizing b with
  | terminal a hterminal => rwa [← equal_comm_of_isTerminal hterminal]
  | array as ih =>
    obtain ⟨bs, rfl⟩ := exists_items_of_equal h
    obtain ⟨hlength, hitems⟩ := equal_array_iff.1 h
    refine equal_array_iff.2 ⟨hlength.symm, fun i b a hbi hai => ?_⟩
    have hmem := List.mem_of_getElem? hai
    exact ih a hmem (overItems_iff.1 ha a hmem)
      (overItems_iff.1 hb b (List.mem_of_getElem? hbi)) (hitems i a b hai hbi)
  | object as ih =>
    obtain ⟨bs, rfl⟩ := exists_fields_of_equal h
    obtain ⟨hnames, hfields⟩ := (equal_object_iff ha.1 hb.1).1 h
    refine (equal_object_iff hb.1 ha.1).2 ⟨hnames.symm, fun name b a hbn han => ?_⟩
    exact ih _ han (over_of_mem ha.2 han) (over_of_mem hb.2 hbn) (hfields name a b han hbn)

/-- It does not matter from which side two values are compared. -/
theorem equal_comm {a b : Value} (ha : a.DistinctNames) (hb : b.DistinctNames) :
    a.equal b = b.equal a := by
  rw [Bool.eq_iff_iff]
  exact ⟨equal_symm ha hb, equal_symm hb ha⟩

/-! ## Chains -/

/-- Whether somewhere in three values a binary64 number stands between two different integers that
both become it. -/
inductive Split : Value → Value → Value → Prop
  | number {m n : Int64} {x : Float} (hne : m ≠ n) (hm : floatOfInt m = x)
    (hn : floatOfInt n = x) : Split (.int m) (.float x) (.int n)
  | item {as bs cs : List Value} {i : Nat} {a b c : Value} (ha : as[i]? = some a)
    (hb : bs[i]? = some b) (hc : cs[i]? = some c) (h : Split a b c) :
    Split (.array as) (.array bs) (.array cs)
  | field {as bs cs : List (String × Value)} {name : String} {a b c : Value}
    (ha : (name, a) ∈ as) (hb : (name, b) ∈ bs) (hc : (name, c) ∈ cs) (h : Split a b c) :
    Split (.object as) (.object bs) (.object cs)

/-- Different integers equal to one binary64 number both become it. -/
theorem floatOfInt_eq_of_equal {m n : Int64} {x : Float} (hne : m ≠ n)
    (hm : Binary64.equal (floatOfInt m) x = true) (hn : Binary64.equal (floatOfInt n) x = true) :
    floatOfInt m = x := by
  obtain ⟨-, -, hmx⟩ := Binary64.equal_iff.1 hm
  obtain ⟨-, -, hnx⟩ := Binary64.equal_iff.1 hn
  refine Binary64.eq_of_place hmx fun hzero => hne ?_
  -- Zero is equal to one integer only.
  have hzero' : Binary64.magnitude (floatOfInt n) = 0 := by
    rw [← Binary64.natAbs_place, hnx, ← hmx, Binary64.natAbs_place, hzero]
  have hm := Binary64.eq_zero_of_magnitude_ofInt (Binary64.natAbs_toInt_lt m) hzero
  have hn := Binary64.eq_zero_of_magnitude_ofInt (Binary64.natAbs_toInt_lt n) hzero'
  exact Int64.toInt_inj.1 (hm.trans hn.symm)

/-- Equal numbers are equal as binary64 numbers. -/
theorem equal_toFloat {a b : Value} {x y : Float} (ha : a.toFloat? = some x)
    (hb : b.toFloat? = some y) (h : a.equal b = true) : Binary64.equal x y = true := by
  cases a <;> cases b <;> simp only [toFloat?, Option.some_inj, reduceCtorEq] at ha hb <;>
    subst ha hb
  case int.int m n =>
    obtain rfl : m = n := by simpa [equal] using h
    exact Binary64.equal_self_iff.2 (isNaN_floatOfInt m)
  case int.float => exact h
  case float.int => rwa [Binary64.equal_comm]
  case float.float => exact h

/-- Only two integers are told apart by more than that. -/
theorem equal_of_toFloat {a b : Value} {x y : Float} (ha : a.toFloat? = some x)
    (hb : b.toFloat? = some y) (hints : ∀ m n, a = .int m → b ≠ .int n)
    (h : Binary64.equal x y = true) : a.equal b = true := by
  cases a <;> cases b <;> simp only [toFloat?, Option.some_inj, reduceCtorEq] at ha hb <;>
    subst ha hb
  case int.int m n => exact absurd rfl (hints m n rfl)
  case int.float => exact h
  case float.int => rwa [Binary64.equal_comm] at h
  case float.float => exact h

theorem exists_toFloat_of_equal {a b : Value} {x : Float} (ha : a.toFloat? = some x)
    (h : a.equal b = true) : ∃ y, b.toFloat? = some y := by
  cases b with
  | int n => exact ⟨_, rfl⟩
  | float y => exact ⟨y, rfl⟩
  | _ => cases a <;> first | exact absurd h Bool.false_ne_true | cases ha

theorem equal_trans_iff_of_toFloat {a b c : Value} {x : Float} (ha : a.toFloat? = some x)
    (hab : a.equal b = true) (hbc : b.equal c = true) : a.equal c = true ↔ ¬Split a b c := by
  obtain ⟨y, hb⟩ := exists_toFloat_of_equal ha hab
  obtain ⟨z, hc⟩ := exists_toFloat_of_equal hb hbc
  by_cases hints : ∃ m n, a = .int m ∧ c = .int n
  · obtain ⟨m, n, rfl, rfl⟩ := hints
    rw [equal, beq_iff_eq]
    constructor
    · rintro rfl hsplit
      cases hsplit with
      | number hne => exact hne rfl
    · intro hno
      by_contra hne
      cases b with
      | int k =>
        simp only [equal, beq_iff_eq] at hab hbc
        exact hne (hab.trans hbc)
      | float y =>
        exact hno (.number hne (floatOfInt_eq_of_equal hne hab hbc)
          (floatOfInt_eq_of_equal (Ne.symm hne) hbc hab))
      | _ => cases hab
  · have hchain := Binary64.equal_trans (equal_toFloat ha hb hab) (equal_toFloat hb hc hbc)
    refine iff_of_true (equal_of_toFloat ha hc ?_ hchain) ?_
    · exact fun m n ha hc => hints ⟨m, n, ha, hc⟩
    · intro hsplit
      cases hsplit with
      | number => exact hints ⟨_, _, rfl, rfl⟩
      | item => cases ha
      | field => cases ha

/-- Terminal values other than numbers are equal to themselves only. -/
theorem eq_of_equal_of_toFloat {a b : Value} (hterminal : a.isTerminal = true)
    (ha : a.toFloat? = none) (h : a.equal b = true) : b = a := by
  cases a <;> cases b <;> simp_all [equal, toFloat?, isTerminal]

theorem equal_array_iff_not_split {as bs cs : List Value} (hab : as.length = bs.length)
    (hbc : bs.length = cs.length)
    (hparts : ∀ (i : Nat) (a b c : Value), as[i]? = some a → bs[i]? = some b → cs[i]? = some c →
      (a.equal c = true ↔ ¬Split a b c)) :
    (array as).equal (array cs) = true ↔ ¬Split (.array as) (.array bs) (.array cs) := by
  rw [equal_array_iff]
  constructor
  · rintro ⟨-, hequal⟩ hsplit
    cases hsplit with
    | @item _ _ _ i a b c ha hb hc h => exact (hparts i a b c ha hb hc).1 (hequal i a c ha hc) h
  · intro hno
    refine ⟨hab.trans hbc, fun i a c ha hc => ?_⟩
    have hi : i < bs.length := hab ▸ (List.getElem?_eq_some_iff.1 ha).1
    have hb := List.getElem?_eq_getElem hi
    exact (hparts i a bs[i] c ha hb hc).2 fun h => hno (.item ha hb hc h)

theorem equal_object_iff_not_split {as bs cs : List (String × Value)}
    (has : (as.map (·.1)).Nodup) (hcs : (cs.map (·.1)).Nodup)
    (hab : (as.map (·.1)).Perm (bs.map (·.1))) (hbc : (bs.map (·.1)).Perm (cs.map (·.1)))
    (hparts : ∀ (name : String) (a b c : Value), (name, a) ∈ as → (name, b) ∈ bs →
      (name, c) ∈ cs → (a.equal c = true ↔ ¬Split a b c)) :
    (object as).equal (object cs) = true ↔ ¬Split (.object as) (.object bs) (.object cs) := by
  rw [equal_object_iff has hcs]
  constructor
  · rintro ⟨-, hequal⟩ hsplit
    cases hsplit with
    | @field _ _ _ name a b c ha hb hc h =>
      exact (hparts name a b c ha hb hc).1 (hequal name a c ha hc) h
  · intro hno
    refine ⟨hab.trans hbc, fun name a c ha hc => ?_⟩
    obtain ⟨⟨_, b⟩, hb, rfl⟩ := List.mem_map.1 (hab.mem_iff.1 (List.mem_map_of_mem ha))
    exact (hparts _ a b c ha hb hc).2 fun h => hno (.field ha hb hc h)

/-- Equality carries over from two pairs to the third, unless the values are split. -/
theorem equal_trans_iff {a b c : Value} (ha : a.DistinctNames) (hb : b.DistinctNames)
    (hc : c.DistinctNames) (hab : a.equal b = true) (hbc : b.equal c = true) :
    a.equal c = true ↔ ¬Split a b c := by
  induction a using Value.induction generalizing b c with
  | terminal a hterminal =>
    cases hfloat : a.toFloat? with
    | some x => exact equal_trans_iff_of_toFloat hfloat hab hbc
    | none =>
      obtain rfl := eq_of_equal_of_toFloat hterminal hfloat hab
      refine iff_of_true hbc fun hsplit => ?_
      cases hsplit with
      | item => cases hterminal
      | field => cases hterminal
  | array as ih =>
    obtain ⟨bs, rfl⟩ := exists_items_of_equal hab
    obtain ⟨cs, rfl⟩ := exists_items_of_equal hbc
    obtain ⟨hlength, hitems⟩ := equal_array_iff.1 hab
    obtain ⟨hlength', hitems'⟩ := equal_array_iff.1 hbc
    refine equal_array_iff_not_split hlength hlength' fun i a b c hai hbi hci => ?_
    have hmem := List.mem_of_getElem? hai
    exact ih a hmem (overItems_iff.1 ha a hmem) (overItems_iff.1 hb b (List.mem_of_getElem? hbi))
      (overItems_iff.1 hc c (List.mem_of_getElem? hci)) (hitems i a b hai hbi)
      (hitems' i b c hbi hci)
  | object as ih =>
    obtain ⟨bs, rfl⟩ := exists_fields_of_equal hab
    obtain ⟨cs, rfl⟩ := exists_fields_of_equal hbc
    obtain ⟨hnames, hfields⟩ := (equal_object_iff ha.1 hb.1).1 hab
    obtain ⟨hnames', hfields'⟩ := (equal_object_iff hb.1 hc.1).1 hbc
    refine equal_object_iff_not_split ha.1 hc.1 hnames hnames' fun name a b c han hbn hcn => ?_
    exact ih _ han (over_of_mem ha.2 han) (over_of_mem hb.2 hbn) (over_of_mem hc.2 hcn)
      (hfields name a b han hbn) (hfields' name b c hbn hcn)

/-- Everything but an integer of `2 ^ 53` or more. -/
def NoLargeInt (v : Value) : Prop := ∀ n, v = .int n → n.toInt.natAbs < 2 ^ 53

/-- Small integers share the numbers they become with no other integer. -/
theorem not_split_of_noLargeInt {a b c : Value} (ha : a.Over NoLargeInt) : ¬Split a b c := by
  intro h
  induction h with
  | @number m n x hne hm hn =>
    have := Binary64.eq_of_ofInt_eq (ha m rfl) (Binary64.natAbs_toInt_lt n) (hm.trans hn.symm)
    exact hne (Int64.toInt_inj.1 this)
  | item hai _ _ _ ih => exact ih (overItems_iff.1 ha _ (List.mem_of_getElem? hai))
  | field han _ _ _ ih => exact ih (over_of_mem ha.2 han)

/-- A value is equal to itself exactly when it holds no NaN, two values are equal from either side,
and of two pairs of equal values in a chain the outer ones are equal exactly when no binary64 number
stands between two different integers that become it, which integers below `2 ^ 53` rule out. -/
theorem equality_equivalence_unless_split {a b c : Value} (ha : a.DistinctNames)
    (hb : b.DistinctNames) (hc : c.DistinctNames) :
    (a.equal a = true ↔ a.NaNFree) ∧ a.equal b = b.equal a ∧
      (a.equal b = true → b.equal c = true → (a.equal c = true ↔ ¬Split a b c)) ∧
      (a.Over NoLargeInt → ¬Split a b c) := by
  refine ⟨equal_self_iff ha, equal_comm ha hb, ?_, not_split_of_noLargeInt⟩
  intro hab hbc
  exact equal_trans_iff ha hb hc hab hbc

/-- The first integer that binary64 cannot hold and its neighbour are both equal to one binary64
number, and not to each other; so are records with these numbers in a field. -/
theorem equality_not_transitive_beyond_2_53 :
    let record (v : Value) := Value.object [("id", v), ("tags", .array [.null])]
    let a := record (.int 9007199254740993)
    let b := record (.float (floatOfInt 9007199254740992))
    let c := record (.int 9007199254740992)
    a.NaNFree ∧ b.NaNFree ∧ c.NaNFree ∧ a.equal b = true ∧ b.equal c = true ∧
      a.equal c = false := by
  intro record a b c
  have hnames : ∀ v, v.isTerminal = true → (record v).DistinctNames := by
    intro v hv
    simp [record, DistinctNames, Over, OverItems, OverFields, over_of_isTerminal hv]
  have hab : a.equal b = true := by decide +kernel
  have hbc : b.equal c = true := by decide +kernel
  have hsplit : Split a b c := by
    refine .field List.mem_cons_self List.mem_cons_self List.mem_cons_self ?_
    exact .number (by decide) (by decide +kernel) rfl
  have ha : a.DistinctNames := hnames _ rfl
  have hb : b.DistinctNames := hnames _ rfl
  have hc : c.DistinctNames := hnames _ rfl
  obtain ⟨hself, -, htrans, -⟩ := equality_equivalence_unless_split ha hb hc
  obtain ⟨hself', -⟩ := equality_equivalence_unless_split hb hb hb
  obtain ⟨hself'', -⟩ := equality_equivalence_unless_split hc hc hc
  refine ⟨hself.1 (by decide), hself'.1 (by decide +kernel), hself''.1 (by decide), hab, hbc, ?_⟩
  exact Bool.eq_false_iff.2 fun hac => (htrans hab hbc).1 hac hsplit

end Reshape.Value
