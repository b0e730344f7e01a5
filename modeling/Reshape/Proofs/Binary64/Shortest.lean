import Reshape.Binary64.Shortest
import Reshape.Proofs.Binary64.Bits
import Reshape.Proofs.Binary64.Spacing

/-!
# The digits of a binary64 number

The digits that `shortest` finds read as the number they were found for (`isNearest_shortest`).

The search tests decimals against the neighbourhood of a number, all of it multiplied out to whole
numbers; `Neighbourhood.holds_iff` takes that back to rational numbers. It adds one digit at a time
and does not run dry, because with seventeen digits some decimal lies in every neighbourhood
(`onGrid?_last`). That needs a power of ten close enough below the number, which is what
`leadingPower` estimates from the logarithm and corrects by at most one.
-/

namespace Reshape.Binary64

/-! ## Scales -/

/-- A power with a negative exponent moved to the other side. -/
theorem pow_toNat_eq {b : ℚ} (hb : b ≠ 0) (z : Int) :
    b ^ z.toNat = b ^ z * b ^ (-z).toNat := by
  rw [← zpow_natCast, ← zpow_natCast, ← zpow_add₀ hb]
  congr 1
  omega

namespace Neighbourhood

variable (h : Neighbourhood)

/-- The point of a neighbourhood at a number of its units. -/
def point (n : Nat) : ℚ := n * 2 ^ h.unit

/-- The two factors bring a point and a number of the grid to one scale. -/
theorem factors_spec (power : Int) : ∃ scale : ℚ, 0 < scale ∧
    (∀ n : Nat, ((n * (h.factors power).1 : Nat) : ℚ) = h.point n * scale) ∧
    ∀ c : Nat, ((c * (h.factors power).2 : Nat) : ℚ) = c * 10 ^ power * scale := by
  refine ⟨10 ^ (-power).toNat * 2 ^ (-h.unit).toNat, by positivity, fun n => ?_, fun c => ?_⟩
  · simp only [factors, tenTo, Nat.pow_eq, Nat.shiftLeft_eq]
    push_cast
    rw [pow_toNat_eq two_ne_zero h.unit, point]
    ring
  · simp only [factors, tenTo, Nat.pow_eq, Nat.shiftLeft_eq]
    push_cast
    rw [pow_toNat_eq (by norm_num : (10 : ℚ) ≠ 0) power]
    ring

variable {h}

theorem here_le_grid_iff {n c : Nat} {power : Int} :
    n * (h.factors power).1 ≤ c * (h.factors power).2 ↔ h.point n ≤ c * 10 ^ power := by
  obtain ⟨scale, hscale, hhere, hgrid⟩ := h.factors_spec power
  rw [← @Nat.cast_le ℚ, hhere, hgrid, mul_le_mul_iff_left₀ hscale]

theorem grid_le_here_iff {n c : Nat} {power : Int} :
    c * (h.factors power).2 ≤ n * (h.factors power).1 ↔ c * 10 ^ power ≤ h.point n := by
  obtain ⟨scale, hscale, hhere, hgrid⟩ := h.factors_spec power
  rw [← @Nat.cast_le ℚ, hhere, hgrid, mul_le_mul_iff_left₀ hscale]

/-- What it is to read back as the number: to lie between the ends, or on one that is included. -/
theorem holds_iff {c : Nat} {power : Int} : h.holds c power = true ↔
    (h.point h.low < c * 10 ^ power ∨ h.point h.low = c * 10 ^ power ∧ h.closed = true) ∧
      (c * 10 ^ power < h.point h.high ∨ c * 10 ^ power = h.point h.high ∧ h.closed = true) := by
  cases hclosed : h.closed with
  | true =>
    simp only [holds, hclosed, if_true, Bool.and_eq_true, decide_eq_true_eq, here_le_grid_iff,
      grid_le_here_iff, and_true]
    rw [le_iff_lt_or_eq, le_iff_lt_or_eq]
  | false =>
    simp only [holds, hclosed, Bool.and_eq_true, decide_eq_true_eq, Bool.false_eq_true, if_false,
      and_false, or_false]
    rw [← Nat.not_le, ← Nat.not_le, here_le_grid_iff, grid_le_here_iff, not_le, not_le]

/-- A point strictly between the ends. -/
theorem holds_of_lt {c : Nat} {power : Int} (hlow : h.point h.low < c * 10 ^ power)
    (hhigh : c * 10 ^ power < h.point h.high) : h.holds c power = true :=
  holds_iff.2 ⟨.inl hlow, .inl hhigh⟩

/-! ## The search -/

theorem holds_of_onGrid? {c : Nat} {power : Int} (hc : h.onGrid? power = some c) :
    h.holds c power = true := by
  unfold onGrid? at hc
  dsimp only at hc
  split at hc
  case h_1 hbelow habove =>
    split at hc <;> cases hc
    · exact hbelow
    · exact habove
  case h_2 hbelow _ =>
    cases hc
    exact hbelow
  case h_3 _ habove =>
    cases hc
    exact habove
  case h_4 => cases hc

/-- A grid finer than twice the distance to either end has a point in the neighbourhood. -/
theorem onGrid?_isSome {power : Int}
    (hlow : (10 : ℚ) ^ power < 2 * (h.point h.centre - h.point h.low))
    (hhigh : (10 : ℚ) ^ power < 2 * (h.point h.high - h.point h.centre)) :
    (h.onGrid? power).isSome := by
  have hstep : (0 : ℚ) < 10 ^ power := by positivity
  obtain ⟨below, hbelow⟩ : ∃ below, below = h.centre * (h.factors power).1 / (h.factors power).2 :=
    ⟨_, rfl⟩
  have hgrid : 0 < (h.factors power).2 := by
    simp only [factors, tenTo, Nat.pow_eq, Nat.shiftLeft_eq]
    positivity
  have hunder : (below : ℚ) * 10 ^ power ≤ h.point h.centre := by
    rw [← grid_le_here_iff, hbelow]
    exact Nat.div_mul_le_self _ _
  have hover : h.point h.centre < ((below + 1 : Nat) : ℚ) * 10 ^ power := by
    rw [← not_le, ← grid_le_here_iff, hbelow, Nat.not_le, Nat.mul_comm (_ + 1)]
    exact Nat.lt_mul_div_succ _ hgrid
  have hnext : ((below + 1 : Nat) : ℚ) * 10 ^ power = below * 10 ^ power + 10 ^ power := by
    push_cast
    ring
  -- The nearer of the two points next to the number is at most half a step away.
  have hone : h.holds below power = true ∨ h.holds (below + 1) power = true := by
    rcases le_total (h.point h.centre - below * 10 ^ power) (10 ^ power / 2) with hnear | hfar
    · exact .inl (holds_of_lt (by linarith) (by linarith))
    · exact .inr (holds_of_lt (by linarith) (by linarith))
  unfold onGrid?
  dsimp only
  rw [← hbelow]
  split
  case h_4 hno hno' => rcases hone with hone | hone <;> simp_all
  all_goals rfl

/-- The search ends at a number that reads back, as soon as one of the grids it visits has one. -/
theorem search_spec {lead : Int} {fuel count : Nat}
    (hfound : ∃ k < fuel, (h.onGrid? (lead - (count + k : Nat))).isSome) :
    ∃ (c : Nat) (power : Int), h.holds c power = true ∧
      ((h.search lead fuel count).digits : ℚ) * 10 ^ (h.search lead fuel count).power
        = c * 10 ^ power := by
  induction fuel generalizing count with
  | zero =>
    obtain ⟨k, hk, -⟩ := hfound
    exact absurd hk (Nat.not_lt_zero k)
  | succ fuel ih =>
    rw [search]
    cases hgrid : h.onGrid? (lead - count) with
    | some c =>
      refine ⟨c, lead - count, holds_of_onGrid? hgrid, ?_⟩
      dsimp only
      split
      case isTrue hten =>
        obtain ⟨d, rfl⟩ : 10 ∣ c := Nat.dvd_of_mod_eq_zero (eq_of_beq hten)
        dsimp only
        rw [Nat.mul_div_cancel_left d (by decide), zpow_add_one₀ (by norm_num)]
        push_cast
        ring
      case isFalse => rfl
    | none =>
      apply ih
      obtain ⟨k, hk, hsome⟩ := hfound
      cases k with
      | zero =>
        rw [Nat.add_zero, hgrid] at hsome
        cases hsome
      | succ k => exact ⟨k, by omega, by rwa [show count + 1 + k = count + (k + 1) by omega]⟩

/-! ## The power of ten below the number -/

/-- The estimate from the bit length is at most one too large. -/
theorem tenTo_le_twoTo {bits guess : Int} (hbits : -2000 ≤ bits ∧ bits ≤ 2000)
    (hguess : guess = bits * 30103 / 100000) : (10 : ℚ) ^ (guess - 1) ≤ 2 ^ bits := by
  rcases le_total 0 bits with hpos | hneg
  · obtain ⟨b, rfl⟩ := Int.eq_ofNat_of_zero_le hpos
    rcases le_or_gt guess 1 with hsmall | hlarge
    · calc (10 : ℚ) ^ (guess - 1)
          ≤ 10 ^ (0 : Int) := zpow_le_zpow_right₀ (by norm_num) (by omega)
        _ = 1 := zpow_zero _
        _ ≤ 2 ^ (b : Int) := by
          rw [zpow_natCast]
          exact one_le_pow₀ (by norm_num)
    · obtain ⟨k, hk⟩ := Int.eq_ofNat_of_zero_le (show 0 ≤ guess - 1 by omega)
      rw [hk, zpow_natCast, zpow_natCast, ← pow_le_pow_iff_left₀ (by positivity) (by positivity)
        (show 31 ≠ 0 by decide), ← pow_mul, ← pow_mul, mul_comm k, pow_mul]
      calc ((10 : ℚ) ^ 31) ^ k
          ≤ (2 ^ 103) ^ k := pow_le_pow_left₀ (by norm_num) (by norm_num) k
        _ = 2 ^ (103 * k) := (pow_mul _ _ _).symm
        _ ≤ 2 ^ (b * 31) := pow_le_pow_right₀ (by norm_num) (by omega)
  · obtain ⟨b, hb⟩ := Int.eq_ofNat_of_zero_le (show 0 ≤ -bits by omega)
    obtain ⟨k, hk⟩ := Int.eq_ofNat_of_zero_le (show 0 ≤ 1 - guess by omega)
    obtain rfl : bits = -(b : Int) := by omega
    rw [show guess - 1 = -(k : Int) by omega, zpow_neg, zpow_neg, zpow_natCast, zpow_natCast]
    apply inv_anti₀ (by positivity)
    rw [← pow_le_pow_iff_left₀ (by positivity) (by positivity) (show 93 ≠ 0 by decide), ← pow_mul,
      ← pow_mul, mul_comm b, pow_mul]
    calc ((2 : ℚ) ^ 93) ^ b
        ≤ (10 ^ 28) ^ b := pow_le_pow_left₀ (by norm_num) (by norm_num) b
      _ = 10 ^ (28 * b) := (pow_mul _ _ _).symm
      _ ≤ 10 ^ (k * 93) := pow_le_pow_right₀ (by norm_num) (by omega)

theorem tenTo_leadingPower_le (hcentre : 0 < h.centre)
    (hbits : -2000 ≤ (Nat.log2 h.centre : Int) + h.unit ∧
      (Nat.log2 h.centre : Int) + h.unit ≤ 2000) :
    (10 : ℚ) ^ h.leadingPower ≤ h.point h.centre := by
  have hreaches : ∀ {power}, (h.factors power).2 ≤ h.centre * (h.factors power).1 →
      (10 : ℚ) ^ power ≤ h.point h.centre := by
    intro power hle
    rw [← Nat.one_mul (h.factors power).2, grid_le_here_iff] at hle
    simpa using hle
  unfold leadingPower
  dsimp only
  split
  case isTrue hfirst => exact hreaches (of_decide_eq_true hfirst)
  case isFalse =>
    split
    case isTrue hsecond => exact hreaches (of_decide_eq_true hsecond)
    case isFalse =>
      calc (10 : ℚ) ^ (((Nat.log2 h.centre : Int) + h.unit) * 30103 / 100000 - 1)
          ≤ 2 ^ ((Nat.log2 h.centre : Int) + h.unit) := tenTo_le_twoTo hbits rfl
        _ = (2 ^ Nat.log2 h.centre : Nat) * 2 ^ h.unit := by
          rw [zpow_add₀ two_ne_zero, zpow_natCast]
          push_cast
          rfl
        _ ≤ h.point h.centre := by
          rw [point]
          gcongr
          exact Nat.log2_self_le hcentre.ne'

end Neighbourhood

/-! ## The digits of a number -/

section Digits

variable {x : Float}

/-- The neighbourhood of a number, by the exponent and the significand of its magnitude. -/
theorem neighbourhood_at {e s : Nat} (hm : magnitude x = e * hiddenBit + s)
    (hs : s < 2 * hiddenBit) (hfull : hiddenBit ≤ s ∨ e = 0) :
    Neighbourhood.of x =
      { low := if s = hiddenBit ∧ 0 < e then 4 * s - 1 else 4 * s - 2
        centre := 4 * s
        high := 4 * s + 2
        unit := (e : Int) - 1074 - 2
        closed := s % 2 == 0 } := by
  obtain ⟨hsig, hexp⟩ := parts_at hs hfull
  rw [← hm, ← significand_eq] at hsig
  rw [← hm, ← exponent_eq] at hexp
  have hnarrow : (s == hiddenBit && decide (2 * hiddenBit ≤ magnitude x)) = true ↔
      s = hiddenBit ∧ 0 < e := by
    rw [hm, Bool.and_eq_true, beq_iff_eq, decide_eq_true_eq]
    refine and_congr_right ?_
    rintro rfl
    constructor
    · intro hle
      by_contra hzero
      obtain rfl : e = 0 := by omega
      omega
    · intro he
      have := Nat.le_mul_of_pos_left hiddenBit he
      omega
  simp only [Neighbourhood.of, hsig, hexp, hnarrow]

/-- The neighbourhood of a number has the number in the middle and ends at the halfway points. -/
theorem neighbourhood_spec (hx : magnitude x ≠ 0) :
    (Neighbourhood.of x).point (Neighbourhood.of x).centre = size (magnitude x) ∧
      (Neighbourhood.of x).point (Neighbourhood.of x).high = halfway (magnitude x) ∧
      (∀ k, magnitude x = k + 1 →
        (Neighbourhood.of x).point (Neighbourhood.of x).low = halfway k) ∧
      ((Neighbourhood.of x).closed = true ↔ Even (magnitude x)) ∧
      ∃ gap, 0 < gap ∧ (Neighbourhood.of x).centre = (Neighbourhood.of x).low + gap ∧
        (Neighbourhood.of x).centre + gap ≤ (Neighbourhood.of x).high ∧
        (Neighbourhood.of x).centre < 2 * gap * 10 ^ 16 := by
  obtain ⟨e, s, hm, hs, hfull⟩ := exists_parts (magnitude x)
  have hbit : hiddenBit = 4503599627370496 := rfl
  have hpos : 0 < s := by
    rcases hfull with hfull | rfl
    · exact hiddenBit_pos.trans_le hfull
    · omega
  have hquarter : (2 : ℚ) ^ ((e : Int) - 1074 - 2) = 2 ^ ((e : Int) - 1074) / 4 := by
    rw [zpow_sub₀ two_ne_zero]
    norm_num
  simp only [neighbourhood_at hm hs hfull, Neighbourhood.point, hquarter]
  refine ⟨?_, ?_, ?_, ?_, ?_⟩
  · rw [hm, size_at hs hfull]
    push_cast
    ring
  · rw [hm, halfway_at hs hfull]
    push_cast
    ring
  · intro k hk
    rw [halfway_below hs hfull (hm ▸ hk)]
    split
    all_goals
      rw [Nat.cast_sub (by omega)]
      push_cast
      ring
  · have heven : Even (e * hiddenBit) := (show Even hiddenBit by decide).mul_left e
    rw [beq_iff_eq, hm, ← Nat.even_iff, Nat.even_add, iff_true_left heven]
  · split
    · exact ⟨1, by omega⟩
    · exact ⟨2, by omega⟩

/-- A number that holds is nearest to the magnitude. -/
theorem isNearest_of_holds (hx : magnitude x ≠ 0) {c : Nat} {power : Int}
    (h : (Neighbourhood.of x).holds c power = true) :
    IsNearest (c * 10 ^ power) (magnitude x) := by
  obtain ⟨-, hhigh, hlow, hclosed, -⟩ := neighbourhood_spec hx
  obtain ⟨habove, hbelow⟩ := Neighbourhood.holds_iff.1 h
  rw [hclosed] at habove hbelow
  rw [hhigh] at hbelow
  refine .of_neighbours (fun k hk => ?_) hbelow
  rwa [hlow k hk] at habove

theorem leadingPower_le (hx : magnitude x ≠ 0) (hfinite : isFinite x = true) :
    (10 : ℚ) ^ (Neighbourhood.of x).leadingPower ≤
      (Neighbourhood.of x).point (Neighbourhood.of x).centre := by
  obtain ⟨e, s, hm, hs, hfull⟩ := exists_parts (magnitude x)
  obtain ⟨hsig, hexp⟩ := parts_at hs hfull
  rw [← hm, ← significand_eq] at hsig
  rw [← hm, ← exponent_eq] at hexp
  have hbit : hiddenBit = 2 ^ 52 := by decide
  have hpos : 0 < s := by
    rcases hfull with hfull | rfl
    · exact hiddenBit_pos.trans_le hfull
    · omega
  have hmax : e ≤ 2046 := by
    simp only [isFinite, infinityMagnitude, decide_eq_true_eq, hm] at hfinite
    by_contra hlarge
    have := Nat.mul_le_mul_right hiddenBit (show 2047 ≤ e by omega)
    omega
  have hlog : Nat.log2 (4 * s) < 55 := (Nat.log2_lt (by omega)).2 (by omega)
  apply Neighbourhood.tenTo_leadingPower_le
  · simp only [Neighbourhood.of, hsig]
    omega
  · simp only [Neighbourhood.of, hsig, hexp]
    omega

/-- Seventeen digits suffice: the last grid is finer than the neighbourhood is wide. -/
theorem onGrid?_last (hx : magnitude x ≠ 0) (hfinite : isFinite x = true) :
    ((Neighbourhood.of x).onGrid? ((Neighbourhood.of x).leadingPower - 16)).isSome := by
  obtain ⟨-, -, -, -, gap, hgap, hlow, hhigh, hwidth⟩ := neighbourhood_spec hx
  have hlead := leadingPower_le hx hfinite
  generalize Neighbourhood.of x = h at *
  have hunit : (0 : ℚ) < 2 ^ h.unit := by positivity
  have hlow' : h.point h.centre = h.point h.low + gap * 2 ^ h.unit := by
    simp only [Neighbourhood.point, hlow]
    push_cast
    ring
  have hhigh' : h.point h.centre + gap * 2 ^ h.unit ≤ h.point h.high := by
    simp only [Neighbourhood.point, ← add_mul]
    gcongr
    exact_mod_cast hhigh
  have hfine : (10 : ℚ) ^ (h.leadingPower - 16) < 2 * (gap * 2 ^ h.unit) := by
    have hwidth' : (h.centre : ℚ) < 2 * gap * 10 ^ 16 := by exact_mod_cast hwidth
    calc (10 : ℚ) ^ (h.leadingPower - 16)
        = 10 ^ h.leadingPower / 10 ^ 16 := by
          rw [zpow_sub₀ (by norm_num)]
          norm_num
      _ ≤ h.point h.centre / 10 ^ 16 := by gcongr
      _ < 2 * gap * 10 ^ 16 * 2 ^ h.unit / 10 ^ 16 := by
          rw [Neighbourhood.point]
          gcongr
      _ = 2 * (gap * 2 ^ h.unit) := by field_simp
  exact Neighbourhood.onGrid?_isSome (by linarith) (by linarith)

/-- The digits of a positive finite number read back as the number. -/
theorem isNearest_shortest (hx : magnitude x ≠ 0) (hfinite : isFinite x = true) :
    IsNearest ((shortest x).digits * 10 ^ (shortest x).power) (magnitude x) := by
  have hfound : ∃ k < 17, ((Neighbourhood.of x).onGrid?
      ((Neighbourhood.of x).leadingPower - (0 + k : Nat))).isSome :=
    ⟨16, by decide, onGrid?_last hx hfinite⟩
  obtain ⟨c, power, hholds, hvalue⟩ := Neighbourhood.search_spec hfound
  rw [shortest, hvalue]
  exact isNearest_of_holds hx hholds

end Digits

end Reshape.Binary64
