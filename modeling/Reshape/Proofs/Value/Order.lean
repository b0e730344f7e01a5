import Reshape.Proofs.Binary64.Rounding
import Reshape.Proofs.Value.Rearrangement

/-!
# The order within a kind

`Value.compare?` orders values of one kind. Integers are compared as integers and an integer with a
binary64 number as binary64 numbers, so that neither comparison is finer than the other everywhere,
yet coming strictly before is transitive whatever the kinds (`compare?_trans`). Making integers
binary64 never turns two of them around, and a strict comparison has no tie to lose.

Terminal values of one kind (`OfOneKind`) that are no binary64 numbers are ordered without ties
(`eq_of_not_before`).
-/

namespace Reshape.Value

open Binary64

theorem isNaN_floatOfInt (n : Int64) : isNaN (floatOfInt n) = false :=
  isNaN_of_isFinite (isFinite_ofInt (natAbs_toInt_lt n))

theorem place_le_of_totalPlace_le {x y : Float} (h : totalPlace x ≤ totalPlace y) :
    place x ≤ place y := by
  unfold totalPlace at h
  unfold place
  split at h <;> split at h
  case isTrue.isTrue hx hy => rw [if_pos hx, if_pos hy]; omega
  case isTrue.isFalse hx hy => rw [if_pos hx, if_neg hy]; omega
  case isFalse.isTrue hx hy => omega
  case isFalse.isFalse hx hy => rw [if_neg hx, if_neg hy]; exact h

theorem place_floatOfInt_mono {m n : Int64} (h : m.toInt ≤ n.toInt) :
    place (floatOfInt m) ≤ place (floatOfInt n) :=
  place_le_of_totalPlace_le
    (totalPlace_ofInt_mono (natAbs_toInt_lt m) (natAbs_toInt_lt n) h)

theorem toInt_lt_of_place_lt {m n : Int64} (h : place (floatOfInt m) < place (floatOfInt n)) :
    m.toInt < n.toInt := by
  by_contra hle
  have := place_floatOfInt_mono (Int.not_lt.1 hle)
  omega

theorem compareFloats_eq_lt_iff {x y : Float} : Binary64.compare? x y = some .lt ↔
    isNaN x = false ∧ isNaN y = false ∧ place x < place y := by
  cases hx : isNaN x <;> cases hy : isNaN y <;> simp [Binary64.compare?, hx, hy, Std.compare_eq_lt]

theorem compareInts_eq_lt_iff {m n : Int64} :
    compare? (.int m) (.int n) = some .lt ↔ m.toInt < n.toInt :=
  Option.some_inj.trans Std.compare_eq_lt

/-- Only numbers compare with numbers. -/
theorem isNumber_of_compare? {a b : Value} {o : Ordering} (h : compare? a b = some o) :
    a.isNumber = b.isNumber := by
  cases a <;> cases b <;> first | rfl | cases h

/-- A number that comes before another has the lower place among binary64 numbers. Two integers may
have one place, but are in order themselves. -/
theorem places_of_compare? {a b : Value} (hb : b.isNumber = true) (h : compare? a b = some .lt) :
    ∃ x y, a.toFloat? = some x ∧ b.toFloat? = some y ∧ isNaN x = false ∧ isNaN y = false ∧
      place x ≤ place y ∧
      (place x < place y ∨ ∃ m n, a = .int m ∧ b = .int n ∧ m.toInt < n.toInt) := by
  cases b with
  | int n =>
    cases a with
    | int m =>
      have hlt := compareInts_eq_lt_iff.1 h
      exact ⟨_, _, rfl, rfl, isNaN_floatOfInt m, isNaN_floatOfInt n,
        place_floatOfInt_mono (Int.le_of_lt hlt), .inr ⟨m, n, rfl, rfl, hlt⟩⟩
    | float x =>
      obtain ⟨hx, hn, hlt⟩ := compareFloats_eq_lt_iff.1 h
      exact ⟨_, _, rfl, rfl, hx, hn, Int.le_of_lt hlt, .inl hlt⟩
    | _ => cases h
  | float y =>
    cases a with
    | int m =>
      obtain ⟨hm, hy, hlt⟩ := compareFloats_eq_lt_iff.1 h
      exact ⟨_, _, rfl, rfl, hm, hy, Int.le_of_lt hlt, .inl hlt⟩
    | float x =>
      obtain ⟨hx, hy, hlt⟩ := compareFloats_eq_lt_iff.1 h
      exact ⟨_, _, rfl, rfl, hx, hy, Int.le_of_lt hlt, .inl hlt⟩
    | _ => cases h
  | _ => cases hb

/-- The lower place is enough to come before. -/
theorem compare?_of_place_lt {a b : Value} {x y : Float} (ha : a.toFloat? = some x)
    (hb : b.toFloat? = some y) (hx : isNaN x = false) (hy : isNaN y = false)
    (h : place x < place y) : compare? a b = some .lt := by
  cases a with
  | int m =>
    cases ha
    cases b with
    | int n =>
      cases hb
      exact compareInts_eq_lt_iff.2 (toInt_lt_of_place_lt h)
    | float y =>
      cases hb
      exact compareFloats_eq_lt_iff.2 ⟨hx, hy, h⟩
    | _ => cases hb
  | float x =>
    cases ha
    cases b with
    | int n =>
      cases hb
      exact compareFloats_eq_lt_iff.2 ⟨hx, hy, h⟩
    | float y =>
      cases hb
      exact compareFloats_eq_lt_iff.2 ⟨hx, hy, h⟩
    | _ => cases hb
  | _ => cases ha

/-- Coming before is transitive among numbers. -/
theorem compareNumbers_trans {a b c : Value} (hb : b.isNumber = true)
    (hab : compare? a b = some .lt) (hbc : compare? b c = some .lt) :
    compare? a c = some .lt := by
  have hc : c.isNumber = true := (isNumber_of_compare? hbc).symm.trans hb
  obtain ⟨x, y, hx, hy, hxn, -, hxy, hstrict⟩ := places_of_compare? hb hab
  obtain ⟨y', z, hy', hz, -, hzn, hyz, hstrict'⟩ := places_of_compare? hc hbc
  obtain rfl := Option.some.inj (hy.symm.trans hy')
  rcases hstrict with hlt | ⟨k, n, rfl, rfl, hkn⟩
  · exact compare?_of_place_lt hx hz hxn hzn (by omega)
  rcases hstrict' with hlt | ⟨n', m, hn, rfl, hnm⟩
  · exact compare?_of_place_lt hx hz hxn hzn (by omega)
  · cases hn
    exact compareInts_eq_lt_iff.2 (Int.lt_trans hkn hnm)

theorem compare?_swap (a b : Value) : compare? b a = (compare? a b).map Ordering.swap := by
  have hfloats : ∀ x y : Float,
      Binary64.compare? y x = (Binary64.compare? x y).map Ordering.swap := by
    intro x y
    cases hx : isNaN x <;> cases hy : isNaN y <;>
      simp [Binary64.compare?, hx, hy, Std.OrientedOrd.eq_swap (a := place y)]
  cases a <;> cases b <;> first
    | rfl
    | exact hfloats _ _
    | exact congrArg some Std.OrientedOrd.eq_swap

/-- No value comes before or behind itself. -/
theorem compare?_self_ne {o : Ordering} (ho : o ≠ .eq) (v : Value) : compare? v v ≠ some o := by
  intro h
  have hswap := compare?_swap v v
  rw [h, Option.map_some, Option.some_inj] at hswap
  cases o with
  | eq => exact ho rfl
  | lt => cases hswap
  | gt => cases hswap

/-- Coming before is transitive. -/
theorem compare?_trans {a b c : Value} (hab : compare? a b = some .lt)
    (hbc : compare? b c = some .lt) : compare? a c = some .lt := by
  cases hb : b.isNumber with
  | true => exact compareNumbers_trans hb hab hbc
  | false =>
    cases b with
    | bool b =>
      cases a with
      | bool a =>
        cases c with
        | bool c =>
          exact congrArg some (Std.TransCmp.lt_trans (Option.some.inj hab) (Option.some.inj hbc))
        | _ => cases hbc
      | _ => cases hab
    | string b =>
      cases a with
      | string a =>
        cases c with
        | string c =>
          exact congrArg some (Std.TransCmp.lt_trans (Option.some.inj hab) (Option.some.inj hbc))
        | _ => cases hbc
      | _ => cases hab
    | int n => cases hb
    | float x => cases hb
    | null => cases a <;> cases hab
    | array items => cases a <;> cases hab
    | object fields => cases a <;> cases hab

/-- Coming before and coming behind are both transitive. -/
theorem compare?_trans_of_ne_eq {a b c : Value} {o : Ordering} (ho : o ≠ .eq)
    (hab : compare? a b = some o) (hbc : compare? b c = some o) : compare? a c = some o := by
  cases o with
  | lt => exact compare?_trans hab hbc
  | eq => exact absurd rfl ho
  | gt =>
    have hcb : compare? c b = some .lt := by rw [compare?_swap b c, hbc]; rfl
    have hba : compare? b a = some .lt := by rw [compare?_swap a b, hab]; rfl
    rw [compare?_swap c a, compare?_trans hcb hba]
    rfl

/-! ## One kind -/

/-- Whether two values are terminal values of one kind, all numbers being of one. -/
def OfOneKind (a b : Value) : Prop :=
  a.isTerminal = true ∧ b.isTerminal = true ∧ rank (some a) = rank (some b)

/-- Of two different values of one kind, neither a binary64 number, one comes before the other. -/
theorem eq_of_not_before {a b : Value} (hkind : a.OfOneKind b) (ha : a.NoFloat) (hb : b.NoFloat)
    (hab : compare? a b ≠ some .lt) (hba : compare? a b ≠ some .gt) : a = b := by
  obtain ⟨hterminal, hterminal', hrank⟩ := hkind
  have hne : ∀ {o : Ordering}, o ≠ .lt → o ≠ .gt → o = .eq := by decide
  cases a <;> cases b <;> simp [rank, isTerminal] at hrank hterminal hterminal'
  case null.null => rfl
  case bool.bool a b =>
    cases a <;> cases b <;> first | rfl | exact absurd rfl hab | exact absurd rfl hba
  case int.int m n =>
    have := hne (mt (congrArg some) hab) (mt (congrArg some) hba)
    rw [Int64.toInt_inj.1 (Std.LawfulEqCmp.eq_of_compare this)]
  case string.string s t =>
    have := hne (mt (congrArg some) hab) (mt (congrArg some) hba)
    rw [Std.LawfulEqCmp.eq_of_compare this]
  case float.int x _ => exact absurd rfl (ha x)
  case float.float x _ => exact absurd rfl (ha x)
  case int.float x => exact absurd rfl (hb x)

end Reshape.Value
