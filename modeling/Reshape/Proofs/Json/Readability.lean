import Reshape.Json.Printer
import Reshape.Proofs.Binary64.Text
import Mathlib.Tactic.Tauto

/-!
# What compact text shows

A compact text tells apart everything it is printed from, save what is written alike from the
start: `null` stands for every infinity and every NaN as well, and a binary64 number can have the
digits of an integer. `SameText` is the relation that remains, and it is exact
(`print_compact_eq_iff`).

A text in quotes ends at the first quote that is not escaped, a bracket closes behind the last item,
and everything else is made of characters that never stand between parts (`isPlain`). So no text is
the beginning of another, as long as what follows does not go on with such a character.
-/

namespace Reshape.Json

open Binary64

/-! ## Text in quotes -/

/-- Characters that are escaped by one character behind the backslash, with that character. -/
def shortEscapes : List (Char × Char) :=
  [('"', '"'), ('\\', '\\'), ('\n', 'n'), ('\r', 'r'), ('\t', 't')]

theorem shortEscapes_injective :
    ∀ p ∈ shortEscapes, ∀ q ∈ shortEscapes, p.2 = q.2 → p.1 = q.1 := by
  decide

theorem shortEscapes_ne_u : ∀ p ∈ shortEscapes, p.2 ≠ 'u' := by decide

theorem digitChar_injective : ∀ m < 16, ∀ n < 16, Nat.digitChar m = Nat.digitChar n → m = n := by
  decide

/-- The three ways in which a character is written. -/
theorem escape_cases (c : Char) :
    (escape c = [c] ∧ c ≠ '"' ∧ c ≠ '\\') ∨
      (∃ k, (c, k) ∈ shortEscapes ∧ escape c = ['\\', k]) ∨
      (c.toNat < 160 ∧ escape c =
        ['\\', 'u', '0', '0', hexDigit (c.toNat / 16), hexDigit (c.toNat % 16)]) := by
  unfold escape
  split
  case h_6 hquote hslash _ _ _ =>
    by_cases hcontrol : isControl c = true
    · rw [if_pos hcontrol]
      refine .inr (.inr ⟨?_, rfl⟩)
      simp only [isControl, Bool.or_eq_true, Bool.and_eq_true, decide_eq_true_eq] at hcontrol
      omega
    · rw [if_neg hcontrol]
      exact .inl ⟨rfl, hquote, hslash⟩
  all_goals exact .inr (.inl ⟨_, by decide, rfl⟩)

/-- An escaped character can be read off the beginning of a text. -/
theorem escape_append_inj {c d : Char} {r s : List Char} (h : escape c ++ r = escape d ++ s) :
    c = d ∧ r = s := by
  rcases escape_cases c with ⟨hc, -, hcs⟩ | ⟨k, hk, hc⟩ | ⟨hlow, hc⟩ <;>
    rcases escape_cases d with ⟨hd, -, hds⟩ | ⟨l, hl, hd⟩ | ⟨hlow', hd⟩ <;>
      rw [hc, hd] at h <;> simp only [List.cons_append, List.nil_append, List.cons.injEq] at h
  · exact h
  · exact absurd h.1 hcs
  · exact absurd h.1 hcs
  · exact absurd h.1.symm hds
  · exact ⟨shortEscapes_injective _ hk _ hl h.2.1, h.2.2⟩
  · exact absurd h.2.1 (shortEscapes_ne_u _ hk)
  · exact absurd h.1.symm hds
  · exact absurd h.2.1.symm (shortEscapes_ne_u _ hl)
  · obtain ⟨-, -, -, -, hhigh, hlast, hrest⟩ := h
    have hquotient := digitChar_injective _ (by omega) _ (by omega) hhigh
    have hremainder := digitChar_injective _ (by omega) _ (by omega) hlast
    exact ⟨Char.toNat_inj.1 (by omega), hrest⟩

/-- A quote that ends a text is no escaped character. -/
theorem escape_append_ne_quote (c : Char) (r s : List Char) : escape c ++ r ≠ '"' :: s := by
  rcases escape_cases c with ⟨hc, hq, -⟩ | ⟨k, -, hc⟩ | ⟨-, hc⟩ <;> rw [hc] <;> intro h <;>
    simp only [List.cons_append, List.nil_append, List.cons.injEq] at h
  · exact hq h.1
  · exact absurd h.1 (by decide)
  · exact absurd h.1 (by decide)

theorem flatMap_escape_append_inj {cs ds r s : List Char}
    (h : cs.flatMap escape ++ '"' :: r = ds.flatMap escape ++ '"' :: s) : cs = ds ∧ r = s := by
  induction cs generalizing ds with
  | nil =>
    cases ds with
    | nil => exact ⟨rfl, (List.cons.inj h).2⟩
    | cons d ds =>
      rw [List.flatMap_cons, List.append_assoc] at h
      exact absurd h.symm (escape_append_ne_quote d _ _)
  | cons c cs ih =>
    rw [List.flatMap_cons, List.append_assoc] at h
    cases ds with
    | nil => exact absurd h (escape_append_ne_quote c _ _)
    | cons d ds =>
      rw [List.flatMap_cons, List.append_assoc] at h
      obtain ⟨rfl, htail⟩ := escape_append_inj h
      obtain ⟨rfl, hrest⟩ := ih htail
      exact ⟨rfl, hrest⟩

/-- A text in quotes can be read off the beginning of a text. -/
theorem quoted_append_inj {a b : String} {r s : List Char} (h : quoted a ++ r = quoted b ++ s) :
    a = b ∧ r = s := by
  simp only [quoted, List.cons_append, List.append_assoc, List.nil_append, List.cons.injEq,
    true_and] at h
  obtain ⟨hchars, hrest⟩ := flatMap_escape_append_inj h
  exact ⟨String.toList_inj.1 hchars, hrest⟩

/-! ## Text of numbers and names -/

/-- A character of a number, or of one of the names `null`, `true` and `false`. -/
def isPlain (c : Char) : Bool := c.isAlphanum || c == '-' || c == '.'

/-- A text that does not go on with a plain character. -/
def Delimited (r : List Char) : Prop := ∀ c ∈ r.head?, isPlain c = false

theorem plain_append_inj {t u r s : List Char} (ht : ∀ c ∈ t, isPlain c = true)
    (hu : ∀ c ∈ u, isPlain c = true) (hr : Delimited r) (hs : Delimited s) (h : t ++ r = u ++ s) :
    t = u ∧ r = s := by
  induction t generalizing u with
  | nil =>
    cases u with
    | nil => exact ⟨rfl, h⟩
    | cons d u =>
      rw [List.nil_append] at h
      have hd := hr d (by rw [h]; rfl)
      rw [hu d List.mem_cons_self] at hd
      cases hd
  | cons c t ih =>
    cases u with
    | nil =>
      rw [List.nil_append] at h
      have hc := hs c (by rw [← h]; rfl)
      rw [ht c List.mem_cons_self] at hc
      cases hc
    | cons d u =>
      obtain ⟨rfl, htail⟩ := List.cons.inj h
      obtain ⟨rfl, hrest⟩ :=
        ih (List.forall_mem_cons.1 ht).2 (List.forall_mem_cons.1 hu).2 htail
      exact ⟨rfl, hrest⟩

/-- A character of a number. -/
def isNumeral (c : Char) : Bool := c.isDigit || c == '-' || c == '.'

theorem isPlain_of_isNumeral {c : Char} (h : isNumeral c = true) : isPlain c = true := by
  simp only [isNumeral, isPlain, Char.isAlphanum, Bool.or_eq_true] at h ⊢
  tauto

theorem integer_eq_withSign (n : Int) :
    integer n = withSign (n < 0) (Nat.toDigits 10 n.natAbs) := by
  by_cases hn : n < 0 <;> simp [integer, withSign, hn]

theorem isNumeral_of_mem_withSign {negative : Bool} {t : List Char}
    (ht : ∀ c ∈ t, c.isDigit = true ∨ c = '.') : ∀ c ∈ withSign negative t, isNumeral c = true := by
  have hbody : ∀ c ∈ t, isNumeral c = true := by
    intro c hc
    rcases ht c hc with h | rfl
    · simp [isNumeral, h]
    · decide
  cases negative
  · exact hbody
  · exact List.forall_mem_cons.2 ⟨by decide, hbody⟩

theorem isNumeral_of_mem_integer (n : Int) : ∀ c ∈ integer n, isNumeral c = true := by
  rw [integer_eq_withSign]
  exact isNumeral_of_mem_withSign fun _ hc =>
    .inl (Nat.isDigit_of_mem_toDigits (by decide) (by decide) hc)

theorem isNumeral_of_mem_chars {x : Float} (hx : isFinite x = true) :
    ∀ c ∈ chars x, isNumeral c = true := by
  rw [chars_eq_withSign hx]
  exact isNumeral_of_mem_withSign (isDigit_or_point_of_mem_unsignedChars x)

theorem finiteNumber_of_isFinite {x : Float} (hx : isFinite x = true) :
    finiteNumber x = chars x :=
  if_pos hx

theorem finiteNumber_of_not_isFinite {x : Float} (hx : isFinite x = false) :
    finiteNumber x = ['n', 'u', 'l', 'l'] :=
  if_neg (by rw [hx]; exact Bool.false_ne_true)

theorem isPlain_of_mem_finiteNumber (x : Float) : ∀ c ∈ finiteNumber x, isPlain c = true := by
  cases hx : isFinite x with
  | true =>
    rw [finiteNumber_of_isFinite hx]
    exact fun c hc => isPlain_of_isNumeral (isNumeral_of_mem_chars hx c hc)
  | false =>
    rw [finiteNumber_of_not_isFinite hx]
    exact List.all_eq_true.1 (by decide)

/-! ## Text of values -/

mutual

/-- Whether two values are built alike, with the same names and with terminal values that are
written alike. -/
def SameText : Value → Value → Prop
  | .array as, .array bs => SameItems as bs
  | .object as, .object bs => SameFields as bs
  | a, b => a.isTerminal ∧ b.isTerminal ∧ print .compact 0 a = print .compact 0 b

def SameItems : List Value → List Value → Prop
  | [], [] => True
  | a :: as, b :: bs => SameText a b ∧ SameItems as bs
  | _, _ => False

def SameFields : List (String × Value) → List (String × Value) → Prop
  | [], [] => True
  | (m, a) :: as, (n, b) :: bs => m = n ∧ SameText a b ∧ SameFields as bs
  | _, _ => False

end

/-- The character that the text of a value starts with, for values not written in plain
characters. -/
def opening? : Value → Option Char
  | .string _ => some '"'
  | .array _ => some '['
  | .object _ => some '{'
  | _ => none

theorem isPlain_of_mem_print {v : Value} (h : opening? v = none) (depth : Nat) :
    ∀ c ∈ print .compact depth v, isPlain c = true := by
  cases v with
  | null => exact List.all_eq_true.1 (by decide : ['n', 'u', 'l', 'l'].all isPlain = true)
  | bool b =>
    cases b
    · exact List.all_eq_true.1 (by decide : ['f', 'a', 'l', 's', 'e'].all isPlain = true)
    · exact List.all_eq_true.1 (by decide : ['t', 'r', 'u', 'e'].all isPlain = true)
  | int n => exact fun c hc => isPlain_of_isNumeral (isNumeral_of_mem_integer _ c hc)
  | float x => exact isPlain_of_mem_finiteNumber x
  | string _ => cases h
  | array _ => cases h
  | object _ => cases h

theorem withSign_ne_nil {negative : Bool} {t : List Char} (h : t ≠ []) :
    withSign negative t ≠ [] := by
  cases negative
  · exact h
  · exact List.cons_ne_nil _ _

theorem integer_ne_nil (n : Int) : integer n ≠ [] := by
  rw [integer_eq_withSign]
  exact withSign_ne_nil Nat.toDigits_ne_nil

theorem finiteNumber_ne_nil (x : Float) : finiteNumber x ≠ [] := by
  cases hx : isFinite x with
  | true =>
    rw [finiteNumber_of_isFinite hx, chars_eq_withSign hx]
    exact withSign_ne_nil (unsignedChars_ne_nil x)
  | false =>
    rw [finiteNumber_of_not_isFinite hx]
    exact List.cons_ne_nil _ _

/-- The beginning of a text shows how to go on reading. -/
theorem exists_print_eq_cons (v : Value) (depth : Nat) : ∃ c cs, print .compact depth v = c :: cs ∧
    (opening? v = some c ∨ opening? v = none ∧ isPlain c = true) := by
  have hplain : ∀ {v}, opening? v = none → print .compact depth v ≠ [] →
      ∃ c cs, print .compact depth v = c :: cs ∧
        (opening? v = some c ∨ opening? v = none ∧ isPlain c = true) := by
    intro v hv hne
    obtain ⟨c, cs, h⟩ := List.exists_cons_of_ne_nil hne
    have hall := isPlain_of_mem_print hv depth
    rw [h] at hall
    exact ⟨c, cs, h, .inr ⟨hv, hall c List.mem_cons_self⟩⟩
  cases v with
  | null => exact hplain rfl (List.cons_ne_nil _ _)
  | bool b => cases b <;> exact hplain rfl (List.cons_ne_nil _ _)
  | int n => exact hplain rfl (integer_ne_nil _)
  | float x => exact hplain rfl (finiteNumber_ne_nil x)
  | string s => exact ⟨_, _, rfl, .inl rfl⟩
  | array items => cases items <;> exact ⟨_, _, rfl, .inl rfl⟩
  | object fields => cases fields <;> exact ⟨_, _, rfl, .inl rfl⟩

theorem isPlain_opening {v : Value} {c : Char} (h : opening? v = some c) : isPlain c = false := by
  cases v <;> cases h <;> decide

/-- Texts that go on to the same are of values that start alike. -/
theorem opening_eq {v w : Value} {d e : Nat} {r s : List Char}
    (h : print .compact d v ++ r = print .compact e w ++ s) : opening? v = opening? w := by
  obtain ⟨c, cs, hv, hc⟩ := exists_print_eq_cons v d
  obtain ⟨c', cs', hw, hc'⟩ := exists_print_eq_cons w e
  rw [hv, hw] at h
  obtain ⟨rfl, -⟩ := List.cons.inj h
  rcases hc with hc | ⟨hc, hplain⟩ <;> rcases hc' with hc' | ⟨hc', hplain'⟩
  · exact hc.trans hc'.symm
  · rw [isPlain_opening hc] at hplain'
    cases hplain'
  · rw [isPlain_opening hc'] at hplain
    cases hplain
  · exact hc.trans hc'.symm

/-- The first character of a text closes nothing. -/
theorem print_append_ne_close (v : Value) (depth : Nat) {c : Char} (hc : c = ']' ∨ c = '}')
    (r s : List Char) : print .compact depth v ++ r ≠ c :: s := by
  obtain ⟨d, cs, hv, hd⟩ := exists_print_eq_cons v depth
  rw [hv]
  intro h
  obtain ⟨rfl, -⟩ := List.cons.inj h
  rcases hd with hd | ⟨-, hd⟩
  · cases v <;> cases hd <;> revert hc <;> decide
  · rcases hc with rfl | rfl <;> exact absurd hd (by decide)

theorem print_terminal {v : Value} (h : v.isTerminal = true) (depth : Nat) :
    print .compact depth v = print .compact 0 v := by
  cases v with
  | bool b => cases b <;> rfl
  | array _ => cases h
  | object _ => cases h
  | _ => rfl

section LineBreaks

variable {style : Style} {depth : Nat}
  (hbreak : ∀ r, Delimited r → Delimited (style.lineBreak depth ++ r))
include hbreak

/-- What follows an item ends a word, if a line break before the closing bracket does. -/
theorem delimited_printItems (vs : List Value) (r : List Char) :
    Delimited (printItems style depth vs ++ r) := by
  cases vs with
  | nil =>
    rw [printItems, List.append_assoc]
    refine hbreak _ ?_
    rintro c ⟨⟩
    decide
  | cons v vs =>
    rw [printItems]
    rintro c ⟨⟩
    decide

theorem delimited_printFields (fields : List (String × Value)) (r : List Char) :
    Delimited (printFields style depth fields ++ r) := by
  rcases fields with _ | ⟨⟨name, v⟩, fields⟩
  · rw [printFields, List.append_assoc]
    refine hbreak _ ?_
    rintro c ⟨⟩
    decide
  · rw [printFields]
    rintro c ⟨⟩
    decide

end LineBreaks

theorem delimited_compact (depth : Nat) (r : List Char) (hr : Delimited r) :
    Delimited (Style.compact.lineBreak depth ++ r) := hr

/-- Terminal values, one of them no string, are read off as words. -/
theorem print_terminal_append_inj {v w : Value} {d e : Nat} {r s : List Char}
    (hv : opening? v = none) (hw : opening? w = none) (hr : Delimited r) (hs : Delimited s)
    (h : print .compact d v ++ r = print .compact e w ++ s) : SameText v w ∧ r = s := by
  have hvt : v.isTerminal = true := by cases v <;> first | rfl | cases hv
  have hwt : w.isTerminal = true := by cases w <;> first | rfl | cases hw
  obtain ⟨htext, hrest⟩ :=
    plain_append_inj (isPlain_of_mem_print hv d) (isPlain_of_mem_print hw e) hr hs h
  rw [print_terminal hvt, print_terminal hwt] at htext
  refine ⟨?_, hrest⟩
  rw [SameText]
  · exact ⟨hvt, hwt, htext⟩
  · rintro as bs rfl
    cases hvt
  · rintro as bs rfl
    cases hvt

section Containers

variable {d e : Nat} {r s : List Char}

/-- Behind the opening bracket an array is written like the rest of one. -/
theorem printItems_eq_of_print_array {vs ws : List Value}
    (h : print .compact d (.array vs) ++ r = print .compact e (.array ws) ++ s) :
    printItems .compact d vs ++ r = printItems .compact e ws ++ s := by
  cases vs with
  | nil =>
    cases ws with
    | nil => exact (List.cons.inj h).2
    | cons w ws =>
      have htail : print .compact (e + 1) w ++ (printItems .compact e ws ++ s) = ']' :: r := by
        rw [← List.append_assoc]
        exact (List.cons.inj h).2.symm
      exact absurd htail (print_append_ne_close w _ (.inl rfl) _ _)
  | cons v vs =>
    cases ws with
    | nil =>
      have htail : print .compact (d + 1) v ++ (printItems .compact d vs ++ r) = ']' :: s := by
        rw [← List.append_assoc]
        exact (List.cons.inj h).2
      exact absurd htail (print_append_ne_close v _ (.inl rfl) _ _)
    | cons w ws => exact congrArg (',' :: ·) (List.cons.inj h).2

/-- Behind the opening brace an object is written like the rest of one. -/
theorem printFields_eq_of_print_object {vs ws : List (String × Value)}
    (h : print .compact d (.object vs) ++ r = print .compact e (.object ws) ++ s) :
    printFields .compact d vs ++ r = printFields .compact e ws ++ s := by
  rcases vs with _ | ⟨⟨m, v⟩, vs⟩ <;> rcases ws with _ | ⟨⟨n, w⟩, ws⟩
  · exact (List.cons.inj h).2
  · exact absurd (List.cons.inj (List.cons.inj h).2).1 (by decide)
  · exact absurd (List.cons.inj (List.cons.inj h).2).1 (by decide)
  · exact congrArg (',' :: ·) (List.cons.inj h).2

end Containers

mutual

/-- The text of a value can be read off the beginning of a text. -/
theorem print_append_inj (v w : Value) {d e : Nat} {r s : List Char} (hr : Delimited r)
    (hs : Delimited s) (h : print .compact d v ++ r = print .compact e w ++ s) :
    SameText v w ∧ r = s := by
  have hopening := opening_eq h
  cases hv : opening? v with
  | none => exact print_terminal_append_inj hv (hopening ▸ hv) hr hs h
  | some c =>
    cases v with
    | string a =>
      cases w with
      | string b =>
        obtain ⟨rfl, hrest⟩ := quoted_append_inj h
        exact ⟨⟨rfl, rfl, rfl⟩, hrest⟩
      | _ => exact absurd hopening (by simp [opening?])
    | array vs =>
      cases w with
      | array ws => exact printItems_append_inj vs ws (printItems_eq_of_print_array h)
      | _ => exact absurd hopening (by simp [opening?])
    | object vs =>
      cases w with
      | object ws => exact printFields_append_inj vs ws (printFields_eq_of_print_object h)
      | _ => exact absurd hopening (by simp [opening?])
    | _ => cases hv

theorem printItems_append_inj (vs ws : List Value) {d e : Nat} {r s : List Char}
    (h : printItems .compact d vs ++ r = printItems .compact e ws ++ s) :
    SameItems vs ws ∧ r = s := by
  cases vs with
  | nil =>
    cases ws with
    | nil => exact ⟨trivial, (List.cons.inj h).2⟩
    | cons w ws => exact absurd (List.cons.inj h).1 (by decide)
  | cons v vs =>
    cases ws with
    | nil => exact absurd (List.cons.inj h).1 (by decide)
    | cons w ws =>
      have htail : print .compact (d + 1) v ++ (printItems .compact d vs ++ r) =
          print .compact (e + 1) w ++ (printItems .compact e ws ++ s) := by
        rw [← List.append_assoc, ← List.append_assoc]
        exact (List.cons.inj h).2
      obtain ⟨hvw, hrest⟩ := print_append_inj v w (delimited_printItems (delimited_compact d) vs r)
        (delimited_printItems (delimited_compact e) ws s) htail
      obtain ⟨hvs, hrs⟩ := printItems_append_inj vs ws hrest
      exact ⟨⟨hvw, hvs⟩, hrs⟩

theorem printFields_append_inj (vs ws : List (String × Value)) {d e : Nat} {r s : List Char}
    (h : printFields .compact d vs ++ r = printFields .compact e ws ++ s) :
    SameFields vs ws ∧ r = s := by
  cases vs with
  | nil =>
    rcases ws with _ | ⟨⟨n, w⟩, ws⟩
    · exact ⟨trivial, (List.cons.inj h).2⟩
    · exact absurd (List.cons.inj h).1 (by decide)
  | cons field vs =>
    obtain ⟨m, v⟩ := field
    rcases ws with _ | ⟨⟨n, w⟩, ws⟩
    · exact absurd (List.cons.inj h).1 (by decide)
    · have htail : quoted m ++ (':' :: (print .compact (d + 1) v ++
            (printFields .compact d vs ++ r))) =
          quoted n ++ (':' :: (print .compact (e + 1) w ++
            (printFields .compact e ws ++ s))) := by
        have := (List.cons.inj h).2
        simpa [printFields, Style.compact] using this
      obtain ⟨hname, hcolon⟩ := quoted_append_inj htail
      obtain ⟨hvw, hrest⟩ := print_append_inj v w (delimited_printFields (delimited_compact d) vs r)
        (delimited_printFields (delimited_compact e) ws s) (List.cons.inj hcolon).2
      obtain ⟨hvs, hrs⟩ := printFields_append_inj vs ws hrest
      exact ⟨⟨hname, hvw, hvs⟩, hrs⟩

end

theorem print_array_eq_of_printItems {vs ws : List Value} {d e : Nat}
    (h : printItems .compact d vs = printItems .compact e ws) :
    print .compact d (.array vs) = print .compact e (.array ws) := by
  cases vs <;> cases ws
  · rfl
  · exact absurd (List.cons.inj h).1 (by decide)
  · exact absurd (List.cons.inj h).1 (by decide)
  · exact congrArg ('[' :: ·) (List.cons.inj h).2

theorem print_object_eq_of_printFields {vs ws : List (String × Value)} {d e : Nat}
    (h : printFields .compact d vs = printFields .compact e ws) :
    print .compact d (.object vs) = print .compact e (.object ws) := by
  rcases vs with _ | ⟨⟨_, _⟩, _⟩ <;> rcases ws with _ | ⟨⟨_, _⟩, _⟩
  · rfl
  · exact absurd (List.cons.inj h).1 (by decide)
  · exact absurd (List.cons.inj h).1 (by decide)
  · exact congrArg ('{' :: ·) (List.cons.inj h).2

mutual

theorem print_eq_of_sameText (v w : Value) {d e : Nat} (h : SameText v w) :
    print .compact d v = print .compact e w := by
  have hterminal : v.isTerminal = true → SameText v w →
      print .compact d v = print .compact e w := by
    intro hv h
    rw [SameText] at h
    · rw [print_terminal hv, print_terminal h.2.1, h.2.2]
    · rintro as bs rfl
      cases hv
    · rintro as bs rfl
      cases hv
  cases v with
  | array vs =>
    cases w with
    | array ws => exact print_array_eq_of_printItems (printItems_eq_of_sameItems vs ws h)
    | _ => exact absurd h.1 Bool.false_ne_true
  | object vs =>
    cases w with
    | object ws => exact print_object_eq_of_printFields (printFields_eq_of_sameFields vs ws h)
    | _ => exact absurd h.1 Bool.false_ne_true
  | _ => exact hterminal rfl h

theorem printItems_eq_of_sameItems (vs ws : List Value) {d e : Nat} (h : SameItems vs ws) :
    printItems .compact d vs = printItems .compact e ws := by
  cases vs with
  | nil =>
    cases ws with
    | nil => rfl
    | cons w ws => exact h.elim
  | cons v vs =>
    cases ws with
    | nil => exact h.elim
    | cons w ws =>
      rw [printItems, printItems, print_eq_of_sameText v w h.1,
        printItems_eq_of_sameItems vs ws h.2]
      rfl

theorem printFields_eq_of_sameFields (vs ws : List (String × Value)) {d e : Nat}
    (h : SameFields vs ws) : printFields .compact d vs = printFields .compact e ws := by
  cases vs with
  | nil =>
    cases ws with
    | nil => rfl
    | cons w ws => exact h.elim
  | cons field vs =>
    obtain ⟨m, v⟩ := field
    rcases ws with _ | ⟨⟨n, w⟩, ws⟩
    · exact h.elim
    · rw [printFields, printFields, print_eq_of_sameText v w h.2.1,
        printFields_eq_of_sameFields vs ws h.2.2, h.1]
      rfl

end

/-- Two values have one compact text exactly when they are built alike. -/
theorem print_compact_eq_iff {v w : Value} :
    print .compact 0 v = print .compact 0 w ↔ SameText v w := by
  have hempty : Delimited [] := fun c hc => nomatch hc
  constructor
  · intro h
    exact (print_append_inj v w hempty hempty (congrArg (· ++ []) h)).1
  · intro h
    exact print_eq_of_sameText v w h

end Reshape.Json
