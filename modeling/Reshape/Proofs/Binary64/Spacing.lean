import Reshape.Binary64.Basic
import Mathlib.Algebra.Order.Field.Power
import Mathlib.Tactic.Linarith
import Mathlib.Tactic.Ring
import Mathlib.Tactic.FieldSimp
import Mathlib.Tactic.Positivity
import Mathlib.Algebra.Group.Nat.Even
import Mathlib.Algebra.Order.Ring.Rat

/-!
# How binary64 numbers are spaced

The sizes of the finite numbers, as rational numbers by their magnitudes. Sizes grow with the
magnitude, from one to the next by the unit in the last place, and halfway between two neighbours
lies the border of what reads as either.

`IsNearest q m` says that `q` reads as the number of magnitude `m`, borders going to the even
magnitude. There is at most one such magnitude (`IsNearest.unique`), and it grows with `q`. Nothing
here depends on the largest exponent: beyond it the sizes go on in the same way.
-/

namespace Reshape.Binary64

/-! ## Sizes -/

/-- The significand at a magnitude. -/
def significandAt (m : Nat) : Nat := if m < hiddenBit then m else hiddenBit + m % hiddenBit

/-- The exponent at a magnitude. -/
def exponentAt (m : Nat) : Int := (max 1 (m / hiddenBit) : Nat) - 1075

theorem significand_eq (x : Float) : significand x = significandAt (magnitude x) := rfl

theorem exponent_eq (x : Float) : exponent x = exponentAt (magnitude x) := rfl

/-- The unit in the last place at a magnitude. -/
def ulp (m : Nat) : ℚ := 2 ^ exponentAt m

/-- The number that stands at a magnitude. -/
def size (m : Nat) : ℚ := significandAt m * ulp m

/-- The point in the middle between a magnitude and the next. -/
def halfway (m : Nat) : ℚ := size m + ulp m / 2

theorem ulp_pos (m : Nat) : 0 < ulp m := by
  unfold ulp; positivity

theorem size_zero : size 0 = 0 := by simp [size, significandAt, hiddenBit]

theorem hiddenBit_pos : 0 < hiddenBit := by decide

/-- The magnitudes of one exponent, subnormal ones with the first, by their significands. -/
theorem parts_at {e s : Nat} (hs : s < 2 * hiddenBit) (hfull : hiddenBit ≤ s ∨ e = 0) :
    significandAt (e * hiddenBit + s) = s ∧ exponentAt (e * hiddenBit + s) = e - 1074 := by
  rcases Nat.lt_or_ge s hiddenBit with hlow | hhigh
  · obtain rfl : e = 0 := hfull.resolve_left (by omega)
    rw [Nat.zero_mul, Nat.zero_add, significandAt, if_pos hlow, exponentAt, Nat.div_eq_of_lt hlow]
    exact ⟨rfl, rfl⟩
  · have hsum : e * hiddenBit + s = (s - hiddenBit) + hiddenBit * (e + 1) := by
      rw [Nat.mul_add, Nat.mul_comm]
      omega
    have hdiv : (e * hiddenBit + s) / hiddenBit = e + 1 := by
      rw [hsum, Nat.add_mul_div_left _ _ hiddenBit_pos, Nat.div_eq_of_lt (by omega), Nat.zero_add]
    have hmod : (e * hiddenBit + s) % hiddenBit = s - hiddenBit := by
      rw [hsum, Nat.add_mul_mod_self_left, Nat.mod_eq_of_lt (by omega)]
    constructor
    · rw [significandAt, if_neg (by omega), hmod]
      omega
    · rw [exponentAt, hdiv]
      omega

theorem size_at {e s : Nat} (hs : s < 2 * hiddenBit) (hfull : hiddenBit ≤ s ∨ e = 0) :
    size (e * hiddenBit + s) = s * 2 ^ ((e : Int) - 1074) := by
  rw [size, ulp, (parts_at hs hfull).1, (parts_at hs hfull).2]

theorem ulp_at {e s : Nat} (hs : s < 2 * hiddenBit) (hfull : hiddenBit ≤ s ∨ e = 0) :
    ulp (e * hiddenBit + s) = 2 ^ ((e : Int) - 1074) := by
  rw [ulp, (parts_at hs hfull).2]

theorem halfway_at {e s : Nat} (hs : s < 2 * hiddenBit) (hfull : hiddenBit ≤ s ∨ e = 0) :
    halfway (e * hiddenBit + s) = (s + 1 / 2) * 2 ^ ((e : Int) - 1074) := by
  rw [halfway, size_at hs hfull, ulp_at hs hfull]
  ring

/-- Halfway below a number. Just below the first number of an exponent the numbers are twice as
dense. -/
theorem halfway_below {e s k : Nat} (hs : s < 2 * hiddenBit) (hfull : hiddenBit ≤ s ∨ e = 0)
    (hk : e * hiddenBit + s = k + 1) :
    halfway k = (s - if s = hiddenBit ∧ 0 < e then 1 / 4 else 1 / 2) * 2 ^ ((e : Int) - 1074) := by
  split
  case isTrue hfirst =>
    obtain ⟨rfl, he⟩ := hfirst
    obtain ⟨e, rfl⟩ : ∃ j, e = j + 1 := ⟨e - 1, by omega⟩
    have hbelow : k = e * hiddenBit + (2 * hiddenBit - 1) := by
      rw [Nat.add_mul] at hk
      omega
    rw [hbelow, halfway_at (by omega) (.inl (by omega)), Nat.cast_sub (by omega),
      show ((e + 1 : Nat) : Int) - 1074 = e - 1074 + 1 by push_cast; ring,
      zpow_add_one₀ two_ne_zero]
    push_cast
    ring
  case isFalse hinner =>
    have hbit := hiddenBit_pos
    have hpos : 0 < s := by
      rcases hfull with hfull | rfl
      · omega
      · omega
    have hbelow : k = e * hiddenBit + (s - 1) := by omega
    have hfull' : hiddenBit ≤ s - 1 ∨ e = 0 := by omega
    rw [hbelow, halfway_at (by omega) hfull', Nat.cast_sub (by omega)]
    push_cast
    ring

/-- Every magnitude is a significand of one exponent. -/
theorem exists_parts (m : Nat) :
    ∃ e s, m = e * hiddenBit + s ∧ s < 2 * hiddenBit ∧ (hiddenBit ≤ s ∨ e = 0) := by
  have hsplit := Nat.div_add_mod' m hiddenBit
  have hmod := Nat.mod_lt m hiddenBit_pos
  rcases Nat.eq_zero_or_pos (m / hiddenBit) with hlow | hhigh
  · refine ⟨0, m, by omega, ?_, .inr rfl⟩
    rw [hlow] at hsplit
    omega
  · refine ⟨m / hiddenBit - 1, hiddenBit + m % hiddenBit, ?_, by omega, .inl (by omega)⟩
    rw [Nat.sub_mul, Nat.one_mul]
    have := Nat.le_mul_of_pos_left hiddenBit hhigh
    omega

/-- From one magnitude to the next it is one unit in the last place of the smaller. -/
theorem size_succ (m : Nat) : size (m + 1) = size m + ulp m := by
  obtain ⟨e, s, rfl, hs, hfull⟩ := exists_parts m
  rw [size_at hs hfull, ulp_at hs hfull]
  by_cases hcarry : s + 1 = 2 * hiddenBit
  · have hnext : e * hiddenBit + s + 1 = (e + 1) * hiddenBit + hiddenBit := by
      rw [Nat.add_mul]
      omega
    have hlast : (s : ℚ) = 2 * hiddenBit - 1 := by
      rw [eq_sub_iff_add_eq]
      exact_mod_cast hcarry
    rw [hnext, size_at (by decide) (.inl le_rfl), hlast, Nat.cast_add_one,
      show ((e : Int) + 1 - 1074) = e - 1074 + 1 by ring, zpow_add_one₀ two_ne_zero]
    ring
  · rw [Nat.add_assoc, size_at (by omega) (by omega)]
    push_cast
    ring

theorem size_strictMono : StrictMono size :=
  strictMono_nat_of_lt_succ fun m => by
    rw [size_succ]
    linarith [ulp_pos m]

theorem size_lt_halfway (m : Nat) : size m < halfway m := by
  unfold halfway; linarith [ulp_pos m]

theorem halfway_lt_size (m : Nat) : halfway m < size (m + 1) := by
  unfold halfway; rw [size_succ]; linarith [ulp_pos m]

theorem halfway_strictMono : StrictMono halfway :=
  strictMono_nat_of_lt_succ fun m => (halfway_lt_size m).trans (size_lt_halfway (m + 1))

/-! ## What reads as what -/

/-- A number is nearest to a magnitude: it lies between the halfway points on both sides, ends
included for an even magnitude. -/
structure IsNearest (q : ℚ) (m : Nat) : Prop where
  above : ∀ k < m, halfway k < q ∨ halfway k = q ∧ Even m
  below : ∀ k ≥ m, q < halfway k ∨ q = halfway k ∧ Even m

theorem IsNearest.halfway_le {q : ℚ} {k m : Nat} (h : IsNearest q m) (hk : k < m) :
    halfway k ≤ q := by
  rcases h.above k hk with hlt | ⟨heq, -⟩
  · exact hlt.le
  · exact heq.le

theorem IsNearest.le_halfway {q : ℚ} {k m : Nat} (h : IsNearest q m) (hk : m ≤ k) :
    q ≤ halfway k := by
  rcases h.below k hk with hlt | ⟨heq, -⟩
  · exact hlt.le
  · exact heq.le

/-- It is enough to look at the two halfway points next to the magnitude. -/
theorem IsNearest.of_neighbours {q : ℚ} {m : Nat}
    (above : ∀ k, m = k + 1 → halfway k < q ∨ halfway k = q ∧ Even m)
    (below : q < halfway m ∨ q = halfway m ∧ Even m) : IsNearest q m where
  above k hk := by
    obtain ⟨j, rfl⟩ : ∃ j, m = j + 1 := ⟨m - 1, by omega⟩
    rcases Nat.lt_or_eq_of_le (Nat.le_of_lt_succ hk) with hlt | rfl
    · have := halfway_strictMono hlt
      rcases above j rfl with h | ⟨h, -⟩
      · exact .inl (this.trans h)
      · exact .inl (this.trans_eq h)
    · exact above k rfl
  below k hk := by
    rcases Nat.lt_or_eq_of_le hk with hlt | rfl
    · have := halfway_strictMono hlt
      rcases below with h | ⟨h, -⟩
      · exact .inl (h.trans this)
      · exact .inl (h.trans_lt this)
    · exact below

theorem IsNearest.le {q : ℚ} {m n : Nat} (hm : IsNearest q m) (hn : IsNearest q n) :
    n ≤ m := by
  by_contra hlt
  rw [not_le] at hlt
  have hq : q = halfway m := le_antisymm (hm.le_halfway le_rfl) (hn.halfway_le hlt)
  have hnext : n = m + 1 := by
    by_contra hne
    have := hn.halfway_le (show m + 1 < n by omega)
    have := halfway_strictMono (Nat.lt_succ_self m)
    grind
  rcases hm.below m le_rfl with h | ⟨-, hm⟩
  · grind
  rcases hn.above m hlt with h | ⟨-, hn⟩
  · grind
  · grind

/-- A number is nearest to one magnitude only. -/
theorem IsNearest.unique {q : ℚ} {m n : Nat} (hm : IsNearest q m) (hn : IsNearest q n) : m = n :=
  le_antisymm (hn.le hm) (hm.le hn)

/-- The larger of two numbers is not nearest to the smaller magnitude. -/
theorem IsNearest.mono {q r : ℚ} {m n : Nat} (hm : IsNearest q m) (hn : IsNearest r n)
    (h : q ≤ r) : m ≤ n := by
  by_contra hlt
  rw [not_le] at hlt
  have hq : halfway n ≤ q := hm.halfway_le hlt
  have hr : r ≤ halfway n := hn.le_halfway le_rfl
  have : q = r := le_antisymm h (hr.trans hq)
  subst this
  exact hlt.ne (hn.unique hm)

/-- A magnitude's own number is nearest to it. -/
theorem isNearest_size (m : Nat) : IsNearest (size m) m :=
  .of_neighbours (fun k hk => .inl (hk ▸ halfway_lt_size k)) (.inl (size_lt_halfway m))

end Reshape.Binary64
