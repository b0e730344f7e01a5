import Reshape.Proofs.Binary64.Rounding
import Reshape.Proofs.Binary64.Shortest
import Reshape.Proofs.Decimal.Scientific

/-!
# The text of a number reads back as the number

The decimal number that the text of a finite number denotes is nearest to that very number, and no
number is nearest to two. So finite numbers with one text are one number, and a finite number with
the text of an integer is the one that the integer becomes.
-/

namespace Reshape.Binary64

/-- The text of a number without its sign. -/
def unsignedChars (x : Float) : List Char :=
  if magnitude x = 0 then ['0'] else (shortest x).positional

/-- A text with a sign in front of it or without. -/
def withSign (negative : Bool) (text : List Char) : List Char :=
  if negative then '-' :: text else text

theorem withSign_inj {a b : Bool} {t u : List Char} (ht : '-' ∉ t) (hu : '-' ∉ u)
    (h : withSign a t = withSign b u) : a = b ∧ t = u := by
  cases a <;> cases b <;> simp only [withSign, if_true, Bool.false_eq_true, if_false] at h
  · exact ⟨rfl, h⟩
  · exact absurd (h ▸ List.mem_cons_self) ht
  · exact absurd (h ▸ List.mem_cons_self) hu
  · exact ⟨rfl, (List.cons.inj h).2⟩

variable {x y : Float}

theorem chars_eq_withSign (hx : isFinite x = true) :
    chars x = withSign (isNegative x) (unsignedChars x) := by
  rw [chars, signed, isNaN_of_isFinite hx, hx]
  rfl

theorem isDigit_or_point_of_mem_unsignedChars (x : Float) :
    ∀ c ∈ unsignedChars x, c.isDigit = true ∨ c = '.' := by
  unfold unsignedChars
  split
  · simp
  · exact (shortest x).isDigit_or_point_of_mem_positional

theorem unsignedChars_ne_nil (x : Float) : unsignedChars x ≠ [] := by
  unfold unsignedChars
  split
  · exact List.cons_ne_nil _ _
  · exact (shortest x).positional_ne_nil

theorem minus_not_mem_unsignedChars (x : Float) : '-' ∉ unsignedChars x := by
  intro hmem
  rcases isDigit_or_point_of_mem_unsignedChars x _ hmem with h | h <;> cases h

theorem minus_not_mem_toDigits (n : Nat) : '-' ∉ Nat.toDigits 10 n := fun hmem =>
  nomatch Nat.isDigit_of_mem_toDigits (by decide) (by decide) hmem

/-- The decimal number written for a finite number is nearest to it. -/
theorem isNearest_unsignedChars (hx : isFinite x = true) :
    IsNearest (decimalValue (unsignedChars x)) (magnitude x) := by
  by_cases hzero : magnitude x = 0
  · have hvalue : decimalValue ['0'] = size 0 := by
      rw [show ['0'] = Nat.toDigits 10 0 from rfl, decimalValue_toDigits, size_zero, Nat.cast_zero]
    rw [unsignedChars, if_pos hzero, hvalue, hzero]
    exact isNearest_size 0
  · rw [unsignedChars, if_neg hzero, Scientific.decimalValue_positional]
    exact isNearest_shortest hzero hx

/-- Finite numbers with one text are one number. -/
theorem chars_inj (hx : isFinite x = true) (hy : isFinite y = true) (h : chars x = chars y) :
    x = y := by
  rw [chars_eq_withSign hx, chars_eq_withSign hy] at h
  obtain ⟨hsign, htext⟩ :=
    withSign_inj (minus_not_mem_unsignedChars x) (minus_not_mem_unsignedChars y) h
  have hmx := isNearest_unsignedChars hx
  rw [htext] at hmx
  exact eq_of_magnitude hsign (hmx.unique (isNearest_unsignedChars hy))

/-- A finite number with the text of an integer is the one nearest to the integer. -/
theorem eq_ofInt_of_chars (hx : isFinite x = true) {n : Int} (hn : n.natAbs < 2 ^ 64)
    (h : chars x = withSign (n < 0) (Nat.toDigits 10 n.natAbs)) : x = ofInt n := by
  rw [chars_eq_withSign hx] at h
  obtain ⟨hsign, htext⟩ :=
    withSign_inj (minus_not_mem_unsignedChars x) (minus_not_mem_toDigits _) h
  have hnear := isNearest_unsignedChars hx
  rw [htext, decimalValue_toDigits] at hnear
  apply eq_of_magnitude
  · rw [hsign, isNegative_ofInt hn]
  · rw [magnitude_ofInt hn]
    exact hnear.unique (isNearest_nearestMagnitude hn)

end Reshape.Binary64
