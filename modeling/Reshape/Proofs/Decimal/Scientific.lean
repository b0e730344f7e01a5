import Reshape.Decimal.Scientific
import Mathlib.Algebra.Field.Rat
import Mathlib.Tactic.FieldSimp
import Mathlib.Tactic.Ring

/-!
# What a positional text denotes

`decimalValue` reads a text of digits with at most one point. Whatever the power, the positional
text of a number in scientific form denotes that number.
-/

namespace Reshape

/-- The number that a text of digits denotes, those behind a point counting as places. -/
def decimalValue (text : List Char) : ℚ :=
  Nat.ofDigitChars 10 (text.filter (· ≠ '.')) 0 /
    10 ^ ((text.dropWhile (· ≠ '.')).length - 1)

section DecimalValue

variable {digits places : List Char}

theorem ne_point_of_isDigit {c : Char} (h : c.isDigit = true) : c ≠ '.' := by
  rintro rfl
  cases h

theorem filter_digits (h : ∀ c ∈ digits, c.isDigit = true) : digits.filter (· ≠ '.') = digits :=
  List.filter_eq_self.2 fun c hc => by simpa using ne_point_of_isDigit (h c hc)

theorem dropWhile_digits_append (h : ∀ c ∈ digits, c.isDigit = true) (rest : List Char) :
    (digits ++ rest).dropWhile (· ≠ '.') = rest.dropWhile (· ≠ '.') :=
  List.dropWhile_append_of_pos fun c hc => by simpa using ne_point_of_isDigit (h c hc)

theorem decimalValue_digits (h : ∀ c ∈ digits, c.isDigit = true) :
    decimalValue digits = Nat.ofDigitChars 10 digits 0 := by
  have hdrop := dropWhile_digits_append h []
  rw [List.append_nil] at hdrop
  rw [decimalValue, filter_digits h, hdrop]
  simp

theorem decimalValue_point (h : ∀ c ∈ digits, c.isDigit = true)
    (h' : ∀ c ∈ places, c.isDigit = true) :
    decimalValue (digits ++ '.' :: places) =
      Nat.ofDigitChars 10 (digits ++ places) 0 / 10 ^ places.length := by
  rw [decimalValue, dropWhile_digits_append h, List.filter_append,
    List.filter_cons_of_neg (by simp), filter_digits h, filter_digits h']
  rfl

end DecimalValue

theorem decimalValue_toDigits (n : Nat) : decimalValue (Nat.toDigits 10 n) = n := by
  rw [decimalValue_digits fun c hc => Nat.isDigit_of_mem_toDigits (by decide) (by decide) hc,
    Nat.ofDigitChars_ten_toDigits]

namespace Scientific

theorem isDigit_of_mem_digitChars (d : Scientific) : ∀ c ∈ d.digitChars, c.isDigit = true :=
  fun _ hc => Nat.isDigit_of_mem_toDigits (by decide) (by decide) hc

theorem isDigit_of_mem_replicate_zero {n : Nat} : ∀ c ∈ List.replicate n '0', c.isDigit = true :=
  fun _ hc => List.eq_of_mem_replicate hc ▸ by decide

theorem isDigit_or_point_of_mem_positional (d : Scientific) :
    ∀ c ∈ d.positional, c.isDigit = true ∨ c = '.' := by
  have hdigits := d.isDigit_of_mem_digitChars
  unfold positional
  dsimp only
  split
  · intro c hc
    rcases List.mem_append.1 hc with hc | hc
    · exact .inl (hdigits c hc)
    · exact .inl (isDigit_of_mem_replicate_zero c hc)
  · split
    · intro c hc
      rcases List.mem_append.1 hc with hc | hc
      · exact .inl (hdigits c (List.mem_of_mem_take hc))
      · rcases List.mem_cons.1 hc with rfl | hc
        · exact .inr rfl
        · exact .inl (hdigits c (List.mem_of_mem_drop hc))
    · intro c hc
      simp only [List.cons_append, List.mem_cons, List.mem_append] at hc
      rcases hc with rfl | rfl | hc | hc
      · exact .inl rfl
      · exact .inr rfl
      · exact .inl (isDigit_of_mem_replicate_zero c hc)
      · exact .inl (hdigits c hc)

theorem positional_ne_nil (d : Scientific) : d.positional ≠ [] := by
  unfold positional
  dsimp only
  split
  · exact List.append_ne_nil_of_left_ne_nil Nat.toDigits_ne_nil _
  · split
    · exact List.append_ne_nil_of_right_ne_nil _ (List.cons_ne_nil _ _)
    · exact List.cons_ne_nil _ _

/-- The positional text of a number denotes it. -/
theorem decimalValue_positional (d : Scientific) :
    decimalValue d.positional = d.digits * 10 ^ d.power := by
  have hdigits := d.isDigit_of_mem_digitChars
  have hvalue : Nat.ofDigitChars 10 d.digitChars 0 = d.digits := Nat.ofDigitChars_ten_toDigits
  unfold positional
  dsimp only
  split
  case isTrue hpower =>
    obtain ⟨p, hp⟩ := Int.eq_ofNat_of_zero_le hpower
    rw [hp, Int.toNat_natCast, decimalValue_digits, Nat.ofDigitChars_append, hvalue,
      Nat.ofDigitChars_replicate_zero, zpow_natCast]
    · push_cast
      ring
    · intro c hc
      rcases List.mem_append.1 hc with hc | hc
      · exact hdigits c hc
      · exact isDigit_of_mem_replicate_zero c hc
  case isFalse hpower =>
    obtain ⟨p, hp⟩ := Int.eq_ofNat_of_zero_le (show 0 ≤ -d.power by omega)
    have hquotient : (d.digits : ℚ) * 10 ^ d.power = d.digits / 10 ^ p := by
      rw [show d.power = -(p : Int) by omega, zpow_neg, zpow_natCast, div_eq_mul_inv]
    rw [hp, Int.toNat_natCast, hquotient]
    split
    case isTrue hshort =>
      rw [decimalValue_point (fun c hc => hdigits c (List.mem_of_mem_take hc))
        (fun c hc => hdigits c (List.mem_of_mem_drop hc)), List.take_append_drop, hvalue,
        List.length_drop, show d.digitChars.length - (d.digitChars.length - p) = p by omega]
    case isFalse hlong =>
      have hplaces : ∀ c ∈ List.replicate (p - d.digitChars.length) '0' ++ d.digitChars,
          c.isDigit = true := by
        intro c hc
        rcases List.mem_append.1 hc with hc | hc
        · exact isDigit_of_mem_replicate_zero c hc
        · exact hdigits c hc
      have hlength : (List.replicate (p - d.digitChars.length) '0' ++ d.digitChars).length = p := by
        rw [List.length_append, List.length_replicate]
        omega
      have hzero : ∀ c ∈ ['0'], c.isDigit = true := List.all_eq_true.1 (by decide)
      have hread := decimalValue_point hzero hplaces
      rw [hlength, ← List.append_assoc, Nat.ofDigitChars_append, Nat.ofDigitChars_append,
        Nat.ofDigitChars_replicate_zero] at hread
      have hlead : Nat.ofDigitChars 10 ['0'] 0 = 0 := by decide
      rw [hlead, Nat.mul_zero, hvalue] at hread
      exact hread

end Scientific

end Reshape
