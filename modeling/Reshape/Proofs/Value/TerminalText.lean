import Reshape.Proofs.Binary64.Whole
import Reshape.Proofs.Json.Readability
import Reshape.Proofs.Sorting

/-!
# What the text of a terminal value tells

Two terminal values are printed alike in canonical form exactly when they are equal, with two kinds
of exceptions (`print_iff_equal_iff`), and `Clash` lists both:

* everything that is printed null is printed alike, and a number that is no JSON number is not equal
  to null;
* a large whole binary64 number keeps its digits and is printed apart from the integer that it
  equals.
-/

namespace Reshape

open Binary64 Json

theorem integer_injective {m n : Int} (h : integer m = integer n) : m = n := by
  rw [integer_eq_withSign, integer_eq_withSign] at h
  obtain ⟨hsign, hdigits⟩ :=
    withSign_inj (minus_not_mem_toDigits _) (minus_not_mem_toDigits _) h
  have hvalue : m.natAbs = n.natAbs := by
    rw [← Nat.ofDigitChars_ten_toDigits (n := m.natAbs), hdigits, Nat.ofDigitChars_ten_toDigits]
  have hsign := decide_eq_decide.1 hsign
  omega

namespace Value

/-! ## Numbers -/

theorem equal_int_float {n : Int64} {x : Float} (hx : isFinite x = true) :
    (Value.int n).equal (.float x) = true ↔ place (floatOfInt n) = place x := by
  have hn := isNaN_of_isFinite (isFinite_ofInt (natAbs_toInt_lt n))
  rw [equal, equal_iff]
  simp only [floatOfInt, hn, isNaN_of_isFinite hx, true_and]

theorem equal_float_float {x y : Float} (hx : isFinite x = true) (hy : isFinite y = true) :
    (Value.float x).equal (.float y) = true ↔ place x = place y := by
  rw [equal, equal_iff]
  simp only [isNaN_of_isFinite hx, isNaN_of_isFinite hy, true_and]

/-- Whether a number is canonically written as an integer. -/
def IsCanonicalInt (x : Float) : Prop :=
  isWhole x = true ∧ (truncate x).natAbs < 9000000000000000

theorem canonicalFloat_of_isCanonicalInt {x : Float} (h : IsCanonicalInt x) :
    ∃ n : Int64, canonicalFloat x = .int n ∧ n.toInt = truncate x := by
  refine ⟨Int64.ofInt (truncate x), if_pos (by simpa [IsCanonicalInt] using h),
    Int64.toInt_ofInt_of_le ?_ ?_⟩
  · have := h.2
    simp
    omega
  · have := h.2
    simp
    omega

theorem canonicalFloat_of_not_isCanonicalInt {x : Float} (h : ¬IsCanonicalInt x) :
    canonicalFloat x = .float x :=
  if_neg (by simpa [IsCanonicalInt] using h)

theorem isFinite_of_isWhole {x : Float} (h : isWhole x = true) : isFinite x = true :=
  (Bool.and_eq_true_iff.1 h).1

/-- A canonical integer is equal to the number it stands for. -/
theorem place_of_isCanonicalInt {x : Float} (h : IsCanonicalInt x) :
    place (ofInt (truncate x)) = place x := by
  refine place_ofInt_truncate h.1 ?_
  have := h.2
  rw [natAbs_truncate] at this
  omega

theorem isCanonicalInt_of_magnitude_eq_zero {x : Float} (h : magnitude x = 0) :
    IsCanonicalInt x := by
  have hsig : significand x = 0 := by rw [significand, if_pos (by rw [h]; exact hiddenBit_pos), h]
  have hpart : wholePart x = 0 := by rw [wholePart, hsig, Nat.zero_shiftLeft, Nat.zero_shiftRight]
  refine ⟨?_, by rw [natAbs_truncate, hpart]; decide⟩
  rw [isWhole, isFinite, h, hsig]
  rfl

theorem wholePart_congr {x y : Float} (h : magnitude x = magnitude y) :
    wholePart x = wholePart y := by
  simp only [wholePart, significand, exponent, h]

/-- The integers that a number of less than 16 digits is equal to are written like it. -/
theorem isCanonicalInt_of_place {n : Int64} {x : Float} (hx : isFinite x = true)
    (hsmall : (truncate x).natAbs < 9000000000000000) (h : place (floatOfInt n) = place x) :
    IsCanonicalInt x ∧ truncate x = n.toInt := by
  have hlimit : wholePart x < 2 ^ 53 := by
    rw [natAbs_truncate] at hsmall
    omega
  obtain ⟨hwhole, htruncate⟩ := eq_truncate_of_place (natAbs_toInt_lt n) hx hlimit h
  exact ⟨⟨hwhole, hsmall⟩, htruncate⟩

/-- Whether a large number is written otherwise than an integer. -/
def WrittenApart (n : Int64) (x : Float) : Prop :=
  9000000000000000 ≤ (truncate x).natAbs ∧ chars x ≠ integer n.toInt

/-- An integer and a binary64 number have one canonical text when they are equal, unless the number
is large and its shortest digits are not those of the integer. -/
theorem print_int_eq_iff {n : Int64} {x : Float} (hx : isFinite x = true) :
    print .compact 0 (.int n) = print .compact 0 (canonicalFloat x) ↔
      (Value.int n).equal (.float x) = true ∧ ¬WrittenApart n x := by
  rw [equal_int_float hx]
  by_cases hcanonical : IsCanonicalInt x
  · obtain ⟨k, hk, htruncate⟩ := canonicalFloat_of_isCanonicalInt hcanonical
    have hplace := place_of_isCanonicalInt hcanonical
    rw [hk]
    constructor
    · intro h
      have hnk : n.toInt = truncate x := (integer_injective h).trans htruncate
      refine ⟨by rw [floatOfInt, hnk, hplace], fun happart => ?_⟩
      exact absurd happart.1 (not_le.2 hcanonical.2)
    · rintro ⟨h, -⟩
      have hnk := (isCanonicalInt_of_place hx hcanonical.2 h).2
      show integer n.toInt = integer k.toInt
      rw [htruncate, hnk]
  · rw [canonicalFloat_of_not_isCanonicalInt hcanonical]
    have htext : print .compact 0 (.float x) = chars x := finiteNumber_of_isFinite hx
    rw [htext]
    constructor
    · intro h
      have heq : x = floatOfInt n :=
        eq_ofInt_of_chars hx (natAbs_toInt_lt n) (h.symm.trans (integer_eq_withSign _))
      exact ⟨by rw [heq], fun happart => happart.2 h.symm⟩
    · rintro ⟨h, hno⟩
      by_contra hne
      refine hno ⟨not_lt.1 fun hsmall => ?_, fun heq => hne heq.symm⟩
      exact hcanonical (isCanonicalInt_of_place hx hsmall h).1

/-- Finite binary64 numbers have one canonical text exactly when they are equal. -/
theorem print_float_eq_iff {x y : Float} (hx : isFinite x = true) (hy : isFinite y = true) :
    print .compact 0 (canonicalFloat x) = print .compact 0 (canonicalFloat y) ↔
      (Value.float x).equal (.float y) = true := by
  -- One of them written as an integer: then it is the other that is compared with the integer.
  have hint : ∀ {x y : Float}, isFinite x = true → isFinite y = true → IsCanonicalInt x →
      (print .compact 0 (canonicalFloat x) = print .compact 0 (canonicalFloat y) ↔
        place x = place y) := by
    intro x y hx hy hcanonical
    obtain ⟨k, hk, htruncate⟩ := canonicalFloat_of_isCanonicalInt hcanonical
    have hplace := place_of_isCanonicalInt hcanonical
    rw [hk, print_int_eq_iff hy, equal_int_float hy, floatOfInt, htruncate, hplace]
    refine and_iff_left_of_imp ?_
    intro heq happart
    have hmagnitude : magnitude x = magnitude y := by
      rw [← natAbs_place, heq, natAbs_place]
    have hlarge := happart.1
    rw [natAbs_truncate, ← wholePart_congr hmagnitude, ← natAbs_truncate] at hlarge
    exact absurd hlarge (not_le.2 hcanonical.2)
  rw [equal_float_float hx hy]
  by_cases hcx : IsCanonicalInt x
  · exact hint hx hy hcx
  by_cases hcy : IsCanonicalInt y
  · rw [eq_comm, hint hy hx hcy, eq_comm]
  rw [canonicalFloat_of_not_isCanonicalInt hcx, canonicalFloat_of_not_isCanonicalInt hcy]
  have htext : ∀ {x}, isFinite x = true → print .compact 0 (.float x) = chars x :=
    fun h => finiteNumber_of_isFinite h
  rw [htext hx, htext hy]
  constructor
  · intro h
    rw [chars_inj hx hy h]
  · intro h
    rw [eq_of_place h fun hzero => hcx (isCanonicalInt_of_magnitude_eq_zero hzero)]

/-! ## Terminal values -/

/-- Whether a value is written `null`. -/
def isWrittenNull : Value → Bool
  | .null => true
  | .float x => !isFinite x
  | _ => false

/-- Terminal values whose canonical texts mislead: one text for values that are not equal, or two
for values that are. -/
inductive Clash : Value → Value → Prop where
  /-- Both are written `null`. -/
  | null {t u : Value} (ht : t.isWrittenNull = true) (hu : u.isWrittenNull = true)
      (h : t.equal u = false) : Clash t u
  /-- An integer and a large number equal to it that is written with other digits. -/
  | intFloat {n : Int64} {x : Float} (h : (Value.int n).equal (.float x) = true)
      (hapart : WrittenApart n x) : Clash (.int n) (.float x)
  | floatInt {x : Float} {n : Int64} (h : (Value.float x).equal (.int n) = true)
      (hapart : WrittenApart n x) : Clash (.float x) (.int n)

/-- What the text of a terminal value can begin with. -/
inductive TextKind where
  | null
  | bool (b : Bool)
  | number
  | string
deriving DecidableEq

def textKind : Value → TextKind
  | .bool b => .bool b
  | .int _ => .number
  | .float x => if isFinite x then .number else .null
  | .string _ => .string
  | _ => .null

def TextKind.ofChar (c : Char) : TextKind :=
  if c = '"' then .string
  else if c = 't' then .bool true
  else if c = 'f' then .bool false
  else if c = 'n' then .null
  else .number

theorem ofChar_of_isNumeral {c : Char} (h : isNumeral c = true) : TextKind.ofChar c = .number := by
  have hne : ∀ d, isNumeral d = false → c ≠ d := by
    rintro d hd rfl
    rw [h] at hd
    cases hd
  simp only [TextKind.ofChar, if_neg (hne '"' (by decide)), if_neg (hne 't' (by decide)),
    if_neg (hne 'f' (by decide)), if_neg (hne 'n' (by decide))]

theorem exists_numeral_cons {text : List Char} (hne : text ≠ [])
    (h : ∀ c ∈ text, isNumeral c = true) :
    ∃ c cs, text = c :: cs ∧ TextKind.ofChar c = .number := by
  obtain ⟨c, cs, rfl⟩ := List.exists_cons_of_ne_nil hne
  exact ⟨c, cs, rfl, ofChar_of_isNumeral (h c List.mem_cons_self)⟩

theorem exists_print_canonical_eq_cons {t : Value} (ht : t.isTerminal = true) :
    ∃ c cs, print .compact 0 t.canonical = c :: cs ∧ TextKind.ofChar c = t.textKind := by
  have hint : ∀ n : Int64, ∃ c cs, print .compact 0 (.int n) = c :: cs ∧
      TextKind.ofChar c = .number := fun n =>
    exists_numeral_cons (integer_ne_nil _) (isNumeral_of_mem_integer n.toInt)
  cases t with
  | null => exact ⟨_, _, rfl, rfl⟩
  | bool b => cases b <;> exact ⟨_, _, rfl, rfl⟩
  | int n => exact hint n
  | float x =>
    rw [canonical, textKind]
    by_cases hcanonical : IsCanonicalInt x
    · obtain ⟨n, hn, -⟩ := canonicalFloat_of_isCanonicalInt hcanonical
      rw [hn, if_pos (isFinite_of_isWhole hcanonical.1)]
      exact hint n
    · rw [canonicalFloat_of_not_isCanonicalInt hcanonical]
      cases hx : isFinite x with
      | true =>
        have htext : print .compact 0 (.float x) = chars x := finiteNumber_of_isFinite hx
        rw [htext]
        exact exists_numeral_cons (finiteNumber_of_isFinite hx ▸ finiteNumber_ne_nil x)
          (isNumeral_of_mem_chars hx)
      | false => exact ⟨_, _, finiteNumber_of_not_isFinite hx, rfl⟩
  | string s => exact ⟨_, _, rfl, rfl⟩
  | array _ => cases ht
  | object _ => cases ht

variable {t u : Value}

theorem textKind_eq_of_print_eq (ht : t.isTerminal = true) (hu : u.isTerminal = true)
    (h : print .compact 0 t.canonical = print .compact 0 u.canonical) :
    t.textKind = u.textKind := by
  obtain ⟨c, cs, hc, hkind⟩ := exists_print_canonical_eq_cons ht
  obtain ⟨d, ds, hd, hkind'⟩ := exists_print_canonical_eq_cons hu
  rw [hc, hd] at h
  rw [← hkind, ← hkind', (List.cons.inj h).1]

theorem isFinite_of_place {x y : Float} (h : place x = place y) (hx : isFinite x = true) :
    isFinite y = true := by
  have hmagnitude : magnitude x = magnitude y := by rw [← natAbs_place, h, natAbs_place]
  rwa [isFinite, ← hmagnitude]

theorem isFinite_of_equal_int {n : Int64} {x : Float} (h : (Value.int n).equal (.float x) = true) :
    isFinite x = true :=
  isFinite_of_place (equal_iff.1 h).2.2 (isFinite_ofInt (natAbs_toInt_lt n))

theorem textKind_eq_of_equal (ht : t.isTerminal = true) (hu : u.isTerminal = true)
    (h : t.equal u = true) : t.textKind = u.textKind := by
  cases t <;> cases u <;>
    first
    | rfl
    | cases h
    | cases ht
  case bool.bool a b => rw [eq_of_beq h]
  case int.float n x => rw [textKind, textKind, if_pos (isFinite_of_equal_int h)]
  case float.int x n => rw [textKind, textKind, if_pos (isFinite_of_equal_int h)]
  case float.float x y =>
    have hplace := (equal_iff.1 h).2.2
    cases hx : isFinite x with
    | true => simp [textKind, hx, isFinite_of_place hplace hx]
    | false =>
      cases hy : isFinite y with
      | true =>
        rw [isFinite_of_place hplace.symm hy] at hx
        cases hx
      | false => simp [textKind, hx, hy]

theorem textKind_of_isWrittenNull (h : t.isWrittenNull = true) : t.textKind = .null := by
  cases t with
  | null => rfl
  | float x =>
    simp only [isWrittenNull, Bool.not_eq_true'] at h
    simp [textKind, h]
  | _ => cases h

theorem isWrittenNull_of_textKind (ht : t.isTerminal = true) (h : t.textKind = .null) :
    t.isWrittenNull = true := by
  cases t with
  | null => rfl
  | float x =>
    cases hx : isFinite x with
    | true => simp [textKind, hx] at h
    | false => simp [isWrittenNull, hx]
  | array _ => cases ht
  | object _ => cases ht
  | _ => cases h

theorem print_of_isWrittenNull (h : t.isWrittenNull = true) :
    print .compact 0 t.canonical = ['n', 'u', 'l', 'l'] := by
  cases t with
  | null => rfl
  | float x =>
    simp only [isWrittenNull, Bool.not_eq_true'] at h
    have hcanonical : ¬IsCanonicalInt x := by
      intro hcanonical
      rw [isFinite_of_isWhole hcanonical.1] at h
      cases h
    rw [canonical, canonicalFloat_of_not_isCanonicalInt hcanonical]
    exact finiteNumber_of_not_isFinite h
  | _ => cases h

theorem Clash.textKind_eq (h : Clash t u) : t.textKind = u.textKind := by
  cases h with
  | null ht hu _ => rw [textKind_of_isWrittenNull ht, textKind_of_isWrittenNull hu]
  | intFloat h _ => exact textKind_eq_of_equal rfl rfl h
  | floatInt h _ => exact textKind_eq_of_equal rfl rfl h

/-- Values written `null` are confused with each other unless they are equal. -/
theorem clash_iff_of_isWrittenNull (ht : t.isWrittenNull = true) (hu : u.isWrittenNull = true) :
    Clash t u ↔ t.equal u = false := by
  constructor
  · intro h
    cases h with
    | null _ _ h => exact h
    | intFloat _ _ => cases ht
    | floatInt _ _ => cases hu
  · exact .null ht hu

theorem clash_int_float_iff {n : Int64} {x : Float} : Clash (.int n) (.float x) ↔
    (Value.int n).equal (.float x) = true ∧ WrittenApart n x := by
  constructor
  · rintro (⟨ht, -, -⟩ | ⟨h, hapart⟩)
    · cases ht
    · exact ⟨h, hapart⟩
  · rintro ⟨h, hapart⟩
    exact .intFloat h hapart

theorem clash_float_int_iff {x : Float} {n : Int64} : Clash (.float x) (.int n) ↔
    (Value.float x).equal (.int n) = true ∧ WrittenApart n x := by
  constructor
  · rintro (⟨-, hu, -⟩ | _ | ⟨h, hapart⟩)
    · cases hu
    · exact ⟨h, hapart⟩
  · rintro ⟨h, hapart⟩
    exact .floatInt h hapart

theorem isFinite_of_textKind {x : Float} (h : (Value.float x).textKind ≠ .null) :
    isFinite x = true := by
  by_contra hx
  exact h (if_neg hx)

/-- The same for values of one kind that are not written `null`. -/
theorem print_iff_equal_iff_of_ne_null (ht : t.isTerminal = true) (hu : u.isTerminal = true)
    (hkind : t.textKind = u.textKind) (hnull : t.textKind ≠ .null) :
    (print .compact 0 t.canonical = print .compact 0 u.canonical ↔ t.equal u = true) ↔
      ¬Clash t u := by
  -- Only an integer and a binary64 number can clash.
  have hother : (∀ n x, ¬(t = .int n ∧ u = .float x)) → (∀ x n, ¬(t = .float x ∧ u = .int n)) →
      ¬Clash t u := by
    intro hno hno' hclash
    cases hclash with
    | null ht _ _ => exact hnull (textKind_of_isWrittenNull ht)
    | intFloat _ _ => exact hno _ _ ⟨rfl, rfl⟩
    | floatInt _ _ => exact hno' _ _ ⟨rfl, rfl⟩
  cases t with
  | null => exact absurd rfl hnull
  | bool a =>
    cases u with
    | bool b =>
      cases hkind
      exact iff_of_true (iff_of_true rfl (beq_self_eq_true a)) (hother (by simp) (by simp))
    | float y => cases hy : isFinite y <;> simp [textKind, hy] at hkind
    | _ => cases hkind
  | int m =>
    cases u with
    | int n =>
      refine iff_of_true ⟨fun h => ?_, fun h => ?_⟩ (hother (by simp) (by simp))
      · exact beq_iff_eq.2 (Int64.toInt_inj.1 (integer_injective h))
      · rw [eq_of_beq h]
    | float y =>
      have hy := isFinite_of_textKind (hkind ▸ hnull)
      rw [clash_int_float_iff, canonical, canonical, print_int_eq_iff hy]
      · tauto
      all_goals simp
    | _ => cases hkind
  | float x =>
    have hx := isFinite_of_textKind hnull
    cases u with
    | int n =>
      have hequal : (Value.float x).equal (.int n) = (Value.int n).equal (.float x) := by
        rw [equal, equal]
      rw [clash_float_int_iff, hequal, canonical, canonical, eq_comm, print_int_eq_iff hx]
      · tauto
      all_goals simp
    | float y =>
      have hy := isFinite_of_textKind (hkind ▸ hnull)
      exact iff_of_true (print_float_eq_iff hx hy) (hother (by simp) (by simp))
    | _ => simp [textKind, hx] at hkind
  | string a =>
    cases u with
    | string b =>
      refine iff_of_true ⟨fun h => ?_, fun h => ?_⟩ (hother (by simp) (by simp))
      · exact beq_iff_eq.2 (quoted_append_inj (congrArg (· ++ []) h)).1
      · rw [eq_of_beq h]
    | float y => cases hy : isFinite y <;> simp [textKind, hy] at hkind
    | _ => cases hkind
  | array _ => cases ht
  | object _ => cases ht

/-- The canonical texts of two terminal values tell whether the values are equal, unless the two
clash. -/
theorem print_iff_equal_iff (ht : t.isTerminal = true) (hu : u.isTerminal = true) :
    (print .compact 0 t.canonical = print .compact 0 u.canonical ↔ t.equal u = true) ↔
      ¬Clash t u := by
  by_cases hkind : t.textKind = u.textKind
  swap
  · refine iff_of_true (iff_of_false (fun h => ?_) (fun h => ?_)) (fun h => hkind h.textKind_eq)
    · exact hkind (textKind_eq_of_print_eq ht hu h)
    · exact hkind (textKind_eq_of_equal ht hu h)
  by_cases hnull : t.textKind = .null
  · have htn := isWrittenNull_of_textKind ht hnull
    have hun := isWrittenNull_of_textKind hu (hkind ▸ hnull)
    rw [print_of_isWrittenNull htn, print_of_isWrittenNull hun,
      clash_iff_of_isWrittenNull htn hun]
    simp
  exact print_iff_equal_iff_of_ne_null ht hu hkind hnull

end Value

end Reshape
