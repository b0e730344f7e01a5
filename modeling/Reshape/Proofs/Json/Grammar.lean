import Reshape.Json.Reader
import Reshape.Proofs.Json.Readability
import Reshape.Proofs.Value.Rearrangement

/-!
# The grammar of JSON

`IsText` says which characters make a JSON text, apart from any reader and any printer. Every
notation that puts nothing but blanks between the parts (`Style.Blank`) prints a value without
binary64 numbers as such a text, whatever characters its strings and names hold
(`isText_print`).
-/

namespace Reshape.Json

/-! ## Tokens -/

/-- Any number of blanks. -/
def IsBlanks (t : List Char) : Prop := ∀ c ∈ t, isBlank c = true

/-- One digit or more. -/
def IsDigits (t : List Char) : Prop := t ≠ [] ∧ ∀ c ∈ t, c.isDigit = true

/-- The digits before the point: zero, or digits that do not start with a zero. -/
inductive IsWhole : List Char → Prop where
  | zero : IsWhole ['0']
  | digits {c t} (hc : c ≠ '0') (ht : ∀ d ∈ c :: t, d.isDigit = true) : IsWhole (c :: t)

inductive IsFraction : List Char → Prop where
  | absent : IsFraction []
  | digits {t} (ht : IsDigits t) : IsFraction ('.' :: t)

inductive IsExponent : List Char → Prop where
  | absent : IsExponent []
  | digits {mark sign t} (hmark : mark = 'e' ∨ mark = 'E')
    (hsign : sign = [] ∨ sign = ['+'] ∨ sign = ['-']) (ht : IsDigits t) :
    IsExponent (mark :: sign ++ t)

inductive IsNumber : List Char → Prop where
  | mk {sign whole fraction exponent} (hsign : sign = [] ∨ sign = ['-']) (hwhole : IsWhole whole)
    (hfraction : IsFraction fraction) (hexponent : IsExponent exponent) :
    IsNumber (sign ++ whole ++ fraction ++ exponent)

/-- What can stand for one character inside quotes: the character itself, unless it is a quote, a
backslash or below U+0020, or an escape. -/
inductive IsStringPart : List Char → Prop where
  | itself {c} (hquote : c ≠ '"') (hslash : c ≠ '\\') (hcontrol : 0x20 ≤ c.toNat) : IsStringPart [c]
  | short {c} (hc : c ∈ ['"', '\\', '/', 'b', 'f', 'n', 'r', 't']) : IsStringPart ['\\', c]
  | unit {a b c d} (hdigits : ∀ x ∈ [a, b, c, d], (hexValue? x).isSome = true) :
    IsStringPart ['\\', 'u', a, b, c, d]

inductive IsString : List Char → Prop where
  | mk {parts : List (List Char)} (hparts : ∀ part ∈ parts, IsStringPart part) :
    IsString ('"' :: parts.flatten ++ ['"'])

/-! ## Values -/

mutual

inductive IsValue : List Char → Prop where
  | literal {t}
    (h : t ∈ [['n', 'u', 'l', 'l'], ['t', 'r', 'u', 'e'], ['f', 'a', 'l', 's', 'e']]) : IsValue t
  | number {t} (h : IsNumber t) : IsValue t
  | string {t} (h : IsString t) : IsValue t
  | emptyArray {b} (hb : IsBlanks b) : IsValue ('[' :: b ++ [']'])
  | array {t} (h : IsItems t) : IsValue ('[' :: t ++ [']'])
  | emptyObject {b} (hb : IsBlanks b) : IsValue ('{' :: b ++ ['}'])
  | object {t} (h : IsFields t) : IsValue ('{' :: t ++ ['}'])

/-- One item or more, with a comma between two and blanks around each. -/
inductive IsItems : List Char → Prop where
  | last {b t b'} (hb : IsBlanks b) (ht : IsValue t) (hb' : IsBlanks b') : IsItems (b ++ t ++ b')
  | cons {b t b' rest} (hb : IsBlanks b) (ht : IsValue t) (hb' : IsBlanks b')
    (hrest : IsItems rest) : IsItems (b ++ t ++ b' ++ ',' :: rest)

/-- One field or more: a name, a colon and a value each, with a comma between two fields and blanks
around every part. -/
inductive IsFields : List Char → Prop where
  | last {b name b' c t c'} (hb : IsBlanks b) (hname : IsString name) (hb' : IsBlanks b')
    (hc : IsBlanks c) (ht : IsValue t) (hc' : IsBlanks c') :
    IsFields (b ++ name ++ b' ++ ':' :: c ++ t ++ c')
  | cons {b name b' c t c' rest} (hb : IsBlanks b) (hname : IsString name) (hb' : IsBlanks b')
    (hc : IsBlanks c) (ht : IsValue t) (hc' : IsBlanks c') (hrest : IsFields rest) :
    IsFields (b ++ name ++ b' ++ ':' :: c ++ t ++ c' ++ ',' :: rest)

end

/-- A JSON text: a value with blanks around it. -/
inductive IsText : List Char → Prop where
  | mk {b t b'} (hb : IsBlanks b) (ht : IsValue t) (hb' : IsBlanks b') : IsText (b ++ t ++ b')

/-! ## Printed tokens -/

theorem isBlanks_nil : IsBlanks [] := List.forall_mem_nil _

/-- The digits of a positive number do not start with a zero. -/
theorem exists_toDigits_eq_cons {n : Nat} (hn : 0 < n) :
    ∃ c cs, Nat.toDigits 10 n = c :: cs ∧ c ≠ '0' := by
  induction n using Nat.strongRecOn with
  | ind n ih =>
    rw [Nat.toDigits_eq_if (by decide)]
    split
    case isTrue => exact ⟨_, [], rfl, fun h => hn.ne' (Nat.digitChar_eq_zero.1 h)⟩
    case isFalse hlarge =>
      obtain ⟨c, cs, hdigits, hc⟩ := ih (n / 10) (by omega) (by omega)
      exact ⟨c, _, congrArg (· ++ _) hdigits, hc⟩

theorem isWhole_toDigits (n : Nat) : IsWhole (Nat.toDigits 10 n) := by
  rcases Nat.eq_zero_or_pos n with rfl | hn
  · exact .zero
  · obtain ⟨c, cs, hdigits, hc⟩ := exists_toDigits_eq_cons hn
    have hall : ∀ d ∈ Nat.toDigits 10 n, d.isDigit = true :=
      fun d hd => Nat.isDigit_of_mem_toDigits (by decide) (by decide) hd
    rw [hdigits] at hall ⊢
    exact .digits hc hall

theorem IsWhole.exists_eq_cons {t : List Char} (h : IsWhole t) :
    ∃ c cs, t = c :: cs ∧ ∀ d ∈ c :: cs, d.isDigit = true := by
  cases h with
  | zero => exact ⟨_, _, rfl, List.forall_mem_singleton.2 rfl⟩
  | digits _ hall => exact ⟨_, _, rfl, hall⟩

theorem isNumber_integer (n : Int) : IsNumber (integer n) := by
  have hnumber : ∀ sign : List Char, sign = [] ∨ sign = ['-'] →
      IsNumber (sign ++ Nat.toDigits 10 n.natAbs) := by
    intro sign hsign
    have h := IsNumber.mk hsign (isWhole_toDigits n.natAbs) .absent .absent
    rwa [List.append_nil, List.append_nil] at h
  rw [integer]
  split
  · exact hnumber _ (.inr rfl)
  · exact hnumber _ (.inl rfl)

/-- A character that is written as it is, is no control character. -/
theorem le_toNat_of_escape_eq {c : Char} (h : escape c = [c]) : 0x20 ≤ c.toNat := by
  unfold escape at h
  split at h
  case h_6 =>
    split at h
    · cases h
    case isFalse hcontrol =>
      simp only [isControl, Bool.or_eq_true, decide_eq_true_eq, not_or] at hcontrol
      omega
  all_goals cases h

theorem isStringPart_escape (c : Char) : IsStringPart (escape c) := by
  rcases escape_cases c with ⟨hself, hquote, hslash⟩ | ⟨k, hk, hshort⟩ | ⟨hlow, hunit⟩
  · rw [hself]
    exact .itself hquote hslash (le_toNat_of_escape_eq hself)
  · have hletters : ∀ p ∈ shortEscapes, p.2 ∈ ['"', '\\', '/', 'b', 'f', 'n', 'r', 't'] := by decide
    rw [hshort]
    exact .short (hletters _ hk)
  · rw [hunit]
    refine .unit ?_
    have hhex : ∀ n < 16, (hexValue? (hexDigit n)).isSome = true := by decide
    have hhigh := hhex (c.toNat / 16) (by omega)
    have hlast := hhex (c.toNat % 16) (by omega)
    simp only [List.forall_mem_cons, hhigh, hlast, List.not_mem_nil, false_imp_iff, implies_true,
      and_true]
    decide

theorem isString_quoted (s : String) : IsString (quoted s) := by
  have hparts : ∀ part ∈ s.toList.map escape, IsStringPart part :=
    List.forall_mem_map.2 fun c _ => isStringPart_escape c
  exact .mk hparts

/-! ## Printed values -/

/-- Nothing but blanks stands between the parts of a value. -/
structure Style.Blank (style : Style) : Prop where
  lineBreak : ∀ depth, IsBlanks (style.lineBreak depth)
  afterColon : IsBlanks style.afterColon

theorem Style.blank_compact : Style.compact.Blank := ⟨fun _ => isBlanks_nil, isBlanks_nil⟩

theorem Style.blank_pretty : Style.pretty.Blank where
  lineBreak := fun depth => List.forall_mem_cons.2
    ⟨by decide, fun c hc => by rw [List.eq_of_mem_replicate hc]; decide⟩
  afterColon := List.forall_mem_singleton.2 (by decide)

variable {style : Style}

mutual

theorem isValue_print (hstyle : style.Blank) (depth : Nat) (v : Value) (hv : v.FloatFree) :
    IsValue (print style depth v) := by
  cases v with
  | null => exact .literal (by rw [print]; decide)
  | bool b => cases b <;> exact .literal (by rw [print]; decide)
  | int n => exact .number (isNumber_integer n.toInt)
  | float x => exact absurd rfl (hv x)
  | string s => exact .string (isString_quoted s)
  | array items =>
    cases items with
    | nil => exact .emptyArray isBlanks_nil
    | cons v vs =>
      obtain ⟨t, ht, heq⟩ := isItems_printItems hstyle depth vs hv.2 (hstyle.lineBreak (depth + 1))
        (isValue_print hstyle (depth + 1) v hv.1)
      have hprint : print style depth (.array (v :: vs)) = '[' :: t ++ [']'] := by
        rw [print]
        exact congrArg ('[' :: ·) heq
      rw [hprint]
      exact .array ht
  | object fields =>
    rcases fields with _ | ⟨⟨name, v⟩, fields⟩
    · exact .emptyObject isBlanks_nil
    · obtain ⟨t, ht, heq⟩ := isFields_printFields hstyle depth fields hv.2.2
        (hstyle.lineBreak (depth + 1)) name (isValue_print hstyle (depth + 1) v hv.2.1)
      have hprint : print style depth (.object ((name, v) :: fields)) = '{' :: t ++ ['}'] := by
        rw [print]
        exact congrArg ('{' :: ·) heq
      rw [hprint]
      exact .object ht

/-- An item and what is printed behind it are items and a closing bracket. -/
theorem isItems_printItems (hstyle : style.Blank) (depth : Nat) (vs : List Value)
    (hvs : Value.OverItems Value.NoFloat vs) {b t : List Char} (hb : IsBlanks b) (ht : IsValue t) :
    ∃ u, IsItems u ∧ b ++ t ++ printItems style depth vs = u ++ [']'] := by
  cases vs with
  | nil =>
    rw [printItems, ← List.append_assoc]
    exact ⟨_, .last hb ht (hstyle.lineBreak depth), rfl⟩
  | cons v vs =>
    obtain ⟨u, hu, heq⟩ := isItems_printItems hstyle depth vs hvs.2 (hstyle.lineBreak (depth + 1))
      (isValue_print hstyle (depth + 1) v hvs.1)
    have hrest : printItems style depth (v :: vs) = ',' :: u ++ [']'] := by
      rw [printItems]
      exact congrArg (',' :: ·) heq
    refine ⟨_, .cons hb ht isBlanks_nil hu, ?_⟩
    rw [hrest, List.append_nil, ← List.append_assoc]

/-- A field and what is printed behind it are fields and a closing brace. -/
theorem isFields_printFields (hstyle : style.Blank) (depth : Nat) (fields : List (String × Value))
    (hfields : Value.OverFields Value.NoFloat fields) {b t : List Char} (hb : IsBlanks b)
    (name : String) (ht : IsValue t) :
    ∃ u, IsFields u ∧
      b ++ quoted name ++ ':' :: style.afterColon ++ t ++ printFields style depth fields =
        u ++ ['}'] := by
  rcases fields with _ | ⟨⟨name', v⟩, fields⟩
  · refine ⟨_, .last hb (isString_quoted name) isBlanks_nil hstyle.afterColon ht
      (hstyle.lineBreak depth), ?_⟩
    rw [printFields, List.append_nil, ← List.append_assoc]
  · obtain ⟨u, hu, heq⟩ := isFields_printFields hstyle depth fields hfields.2
      (hstyle.lineBreak (depth + 1)) name' (isValue_print hstyle (depth + 1) v hfields.1)
    have hrest : printFields style depth ((name', v) :: fields) = ',' :: u ++ ['}'] := by
      rw [printFields]
      exact congrArg (',' :: ·) heq
    refine ⟨_, .cons hb (isString_quoted name) isBlanks_nil hstyle.afterColon ht isBlanks_nil hu,
      ?_⟩
    rw [hrest, List.append_nil, List.append_nil, ← List.append_assoc]

end

/-- Printed values are JSON texts. -/
theorem isText_print (hstyle : style.Blank) {v : Value} (hv : v.FloatFree) :
    IsText (print style 0 v) := by
  have h := IsText.mk isBlanks_nil (isValue_print hstyle 0 v hv) isBlanks_nil
  rwa [List.append_nil] at h

end Reshape.Json
