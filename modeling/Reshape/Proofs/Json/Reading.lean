import Reshape.Proofs.Json.Grammar

/-!
# Reading JSON step by step

What the reader makes of each kind of token, in front of anything that can follow it: an escaped
character is read as the character (`readString_escape`), digits as their number
(`readNumber_integer`), and each bracket, comma and colon leads on as the grammar says.
-/

namespace Reshape.Json

/-! ## Blanks -/

theorem skipBlanks_append {b : List Char} (hb : IsBlanks b) (s : List Char) :
    skipBlanks (b ++ s) = skipBlanks s :=
  List.dropWhile_append_of_pos hb

theorem skipBlanks_cons {c : Char} (hc : isBlank c = false) (s : List Char) :
    skipBlanks (c :: s) = c :: s :=
  List.dropWhile_cons_of_neg (by rw [hc]; exact Bool.false_ne_true)

/-! ## Strings -/

theorem unescape?_of_mem_shortEscapes : ∀ p ∈ shortEscapes, unescape? p.2 = some p.1 := by decide

theorem hexFour?_hexDigit : ∀ n < 160,
    hexFour? '0' '0' (hexDigit (n / 16)) (hexDigit (n % 16)) = some n := by
  decide +kernel

theorem scalar?_toNat (c : Char) : scalar? c.toNat = some c := by
  have hvalid : c.toNat.isValidChar := c.valid
  rw [scalar?, if_pos hvalid, Char.ofNat_toNat]

/-- An escape with four digits that is no first half of a pair is read as its character, also in
front of another such escape. -/
theorem readString_unit (done rest : List Char) {a b c d : Char} {n : Nat}
    (hdigits : hexFour? a b c d = some n) (hn : isHighSurrogate n = false) :
    readString done ('\\' :: 'u' :: a :: b :: c :: d :: rest) =
      (scalar? n).bind fun single => readString (single :: done) rest := by
  by_cases hpair : ∃ e f g h rest', rest = '\\' :: 'u' :: e :: f :: g :: h :: rest'
  · obtain ⟨e, f, g, h, rest', rfl⟩ := hpair
    rw [readString, hdigits]
    simp only [Option.bind_eq_bind, Option.bind_some, hn, Bool.false_eq_true, if_false]
  · rw [readString, hdigits, Option.bind_some]
    · rfl
    · exact fun e f g h rest' heq => hpair ⟨e, f, g, h, rest', heq⟩

/-- An escaped character is read as the character. -/
theorem readString_escape (done : List Char) (c : Char) (rest : List Char) :
    readString done (escape c ++ rest) = readString (c :: done) rest := by
  rcases escape_cases c with ⟨hself, hquote, hslash⟩ | ⟨k, hk, hshort⟩ | ⟨hlow, hunit⟩
  · rw [hself, List.singleton_append, readString,
      if_neg (Nat.not_lt.2 (le_toNat_of_escape_eq hself))]
    · exact hquote
    · exact fun _ _ _ _ _ _ _ _ _ h => absurd h hslash
    · exact fun _ _ _ _ _ h => absurd h hslash
    · exact fun _ _ h => absurd h hslash
  · have hu : k ≠ 'u' := shortEscapes_ne_u _ hk
    rw [hshort, List.cons_append, List.singleton_append, readString,
      unescape?_of_mem_shortEscapes _ hk]
    · rfl
    · exact fun _ _ _ _ _ _ _ _ _ h => absurd h hu
    · exact fun _ _ _ _ _ h => absurd h hu
  · have hsurrogate : isHighSurrogate c.toNat = false := by
      rw [isHighSurrogate, Bool.and_eq_false_iff, decide_eq_false_iff_not]
      omega
    rw [hunit]
    simp only [List.cons_append, List.nil_append]
    rw [readString_unit done rest (hexFour?_hexDigit _ hlow) hsurrogate, scalar?_toNat,
      Option.bind_some]

theorem readString_flatMap (done cs rest : List Char) :
    readString done (cs.flatMap escape ++ '"' :: rest) =
      some (String.ofList (done.reverse ++ cs), rest) := by
  induction cs generalizing done with
  | nil =>
    rw [List.append_nil]
    rfl
  | cons c cs ih =>
    rw [List.flatMap_cons, List.append_assoc, readString_escape, ih, List.reverse_cons,
      List.append_assoc]
    rfl

/-- Behind its first quote, a text in quotes is read as the text. -/
theorem readString_toList (s : String) (rest : List Char) :
    readString [] (s.toList.flatMap escape ++ '"' :: rest) = some (s, rest) := by
  rw [readString_flatMap, List.reverse_nil, List.nil_append, String.ofList_toList]

/-! ## Numbers -/

theorem spanDigits_append {digits rest : List Char} (hdigits : ∀ c ∈ digits, c.isDigit = true)
    (hrest : ∀ c ∈ rest.head?, c.isDigit = false) :
    spanDigits (digits ++ rest) = (digits, rest) := by
  rw [spanDigits, List.span_eq_takeWhile_dropWhile, List.takeWhile_append_of_pos hdigits,
    List.dropWhile_append_of_pos hdigits]
  cases rest with
  | nil => rw [List.takeWhile_nil, List.dropWhile_nil, List.append_nil]
  | cons c rest =>
    have hc : ¬c.isDigit = true := by
      rw [hrest c rfl]
      exact Bool.false_ne_true
    rw [List.takeWhile_cons_of_neg hc, List.dropWhile_cons_of_neg hc, List.append_nil]

/-- What follows a number ends its digits and starts neither a fraction nor an exponent. -/
theorem not_digit_of_delimited {rest : List Char} (h : Delimited rest) :
    ∀ c ∈ rest.head?, c.isDigit = false := by
  intro c hc
  have hplain := h c hc
  rw [Bool.eq_false_iff] at hplain ⊢
  exact fun hdigit => hplain (by simp [isPlain, Char.isAlphanum, hdigit])

theorem readFraction_of_delimited {rest : List Char} (h : Delimited rest) :
    readFraction rest = some ([], rest) := by
  rw [readFraction]
  rintro t rfl
  exact absurd (h '.' rfl) (by decide)

theorem readExponent_of_delimited {rest : List Char} (h : Delimited rest) :
    readExponent rest = some (none, rest) := by
  rw [readExponent]
  · rintro t rfl
    exact absurd (h 'e' rfl) (by decide)
  · rintro t rfl
    exact absurd (h 'E' rfl) (by decide)

theorem digitsValue_toDigits (n : Nat) : digitsValue (Nat.toDigits 10 n) = n :=
  Nat.ofDigitChars_ten_toDigits

theorem numberValue_toDigits (n : Int64) :
    numberValue (n.toInt < 0) (Nat.toDigits 10 n.toInt.natAbs) [] none = .int n := by
  have hvalue : (if decide (n.toInt < 0) = true then -(n.toInt.natAbs : Int)
      else (n.toInt.natAbs : Int)) = n.toInt := by
    by_cases hn : n.toInt < 0
    · rw [if_pos (decide_eq_true hn)]
      omega
    · rw [if_neg (by simp [hn])]
      omega
  have hleast : Int64.minValue.toInt ≤ n.toInt := Int64.le_iff_toInt_le.1 (Int64.minValue_le n)
  have hmost : n.toInt ≤ Int64.maxValue.toInt := Int64.le_iff_toInt_le.1 (Int64.le_maxValue n)
  rw [numberValue, digitsValue_toDigits, hvalue, if_pos, Int64.ofInt_toInt]
  exact Bool.and_eq_true_iff.2 ⟨Bool.and_eq_true_iff.2 ⟨rfl, decide_eq_true hleast⟩,
    decide_eq_true hmost⟩

/-- Digits without a leading zero are read up to what follows the number. -/
theorem readNumber_whole (negative : Bool) {whole rest : List Char} (hwhole : IsWhole whole)
    (hrest : Delimited rest) :
    readNumber (Binary64.withSign negative whole ++ rest) =
      some (numberValue negative whole [] none, rest) := by
  obtain ⟨c, cs, hcons, hdigits⟩ := hwhole.exists_eq_cons
  have hspan := spanDigits_append (hcons ▸ hdigits) (not_digit_of_delimited hrest)
  -- With a sign and without one, the same is read from the digits on.
  cases negative
  case' true => rw [Binary64.withSign, if_pos rfl, List.cons_append, readNumber, hspan]
  case' false =>
    have hminus : ∀ t, whole ++ rest ≠ '-' :: t := by
      intro t heq
      rw [hcons] at heq
      obtain ⟨rfl, -⟩ := List.cons.inj heq
      exact absurd (hdigits _ List.mem_cons_self) (by decide)
    rw [Binary64.withSign, if_neg Bool.false_ne_true, readNumber, hspan]
    pick_goal 2
    · exact hminus
  all_goals
    simp only [readFraction_of_delimited hrest, readExponent_of_delimited hrest,
      Option.bind_eq_bind, Option.bind_some]
    split
    case h_1 => cases hwhole
    case h_2 =>
      cases hwhole with
      | digits hc _ => exact absurd rfl hc
    case h_3 => rfl

theorem readNumber_integer (n : Int64) {rest : List Char} (hrest : Delimited rest) :
    readNumber (integer n.toInt ++ rest) = some (.int n, rest) := by
  rw [integer_eq_withSign, readNumber_whole _ (isWhole_toDigits _) hrest, numberValue_toDigits]

/-! ## Values -/

theorem isBlank_of_isPlain {c : Char} (hc : isPlain c = true) : isBlank c = false := by
  rw [Bool.eq_false_iff]
  intro hblank
  simp only [isBlank, Bool.or_eq_true, beq_iff_eq] at hblank
  rcases hblank with ((rfl | rfl) | rfl) | rfl <;> exact absurd hc (by decide)

theorem isBlank_of_isNumeral {c : Char} (hc : isNumeral c = true) : isBlank c = false :=
  isBlank_of_isPlain (isPlain_of_isNumeral hc)

/-- A value starts with no blank and no bracket that closes an array. -/
theorem IsValue.exists_eq_cons {t : List Char} (h : IsValue t) :
    ∃ c cs, t = c :: cs ∧ isBlank c = false ∧ c ≠ ']' := by
  cases h with
  | literal hliteral =>
    simp only [List.mem_cons, List.not_mem_nil, or_false] at hliteral
    rcases hliteral with rfl | rfl | rfl <;> exact ⟨_, _, rfl, by decide, by decide⟩
  | number hnumber =>
    obtain ⟨hsign, hwhole, -, -⟩ := hnumber
    rcases hsign with rfl | rfl
    · obtain ⟨c, cs, rfl, hdigits⟩ := hwhole.exists_eq_cons
      have hc := hdigits c List.mem_cons_self
      refine ⟨c, _, rfl, isBlank_of_isNumeral (by simp [isNumeral, hc]), ?_⟩
      rintro rfl
      exact absurd hc (by decide)
    · exact ⟨_, _, rfl, by decide, by decide⟩
  | string hstring =>
    cases hstring
    exact ⟨_, _, rfl, by decide, by decide⟩
  | _ => exact ⟨_, _, rfl, by decide, by decide⟩

theorem readValue_blanks {b : List Char} (hb : IsBlanks b) (bound : Nat) (s : List Char) :
    readValue bound (b ++ s) = readValue bound s := by
  cases bound with
  | zero => rfl
  | succ bound => rw [readValue.eq_def, readValue.eq_def]; simp only [skipBlanks_append hb]

theorem readFields_blanks {b : List Char} (hb : IsBlanks b) (bound : Nat) (s : List Char) :
    readFields bound (b ++ s) = readFields bound s := by
  cases bound with
  | zero => rfl
  | succ bound => rw [readFields.eq_def, readFields.eq_def]; simp only [skipBlanks_append hb]

/-- What starts like a number is read as one. -/
theorem readValue_number {c : Char} (hc : isNumeral c = true) (bound : Nat) (s : List Char) :
    readValue (bound + 1) (c :: s) = readNumber (c :: s) := by
  rw [readValue.eq_def]
  simp only [skipBlanks_cons (isBlank_of_isNumeral hc)]
  split
  case h_7 => rfl
  all_goals
    next heq =>
      obtain ⟨rfl, -⟩ := List.cons.inj heq
      exact absurd hc (by decide)

/-- What starts with a bracket, but does not close it, is read as items. -/
theorem readValue_array {c : Char} {s t : List Char} (hs : skipBlanks s = c :: t) (hc : c ≠ ']')
    (bound : Nat) : readValue (bound + 1) ('[' :: s) =
      (readItems bound (c :: t)).map fun (items, rest) => (.array items, rest) := by
  have hbracket : skipBlanks ('[' :: s) = '[' :: s := skipBlanks_cons (by decide) s
  rw [readValue.eq_def]
  simp only [hbracket, hs]
  split
  case h_1 heq => exact absurd (List.cons.inj heq).1 hc
  case h_2 => rfl

/-- What starts with a brace, but does not close it, is read as fields, each name once. -/
theorem readValue_object {c : Char} {s t : List Char} (hs : skipBlanks s = c :: t) (hc : c ≠ '}')
    (bound : Nat) {fields : List (String × Value)} {rest : List Char}
    (hread : readFields bound (c :: t) = some (fields, rest)) (hnames : (fields.map (·.1)).Nodup) :
    readValue (bound + 1) ('{' :: s) = some (.object fields, rest) := by
  have hbrace : skipBlanks ('{' :: s) = '{' :: s := skipBlanks_cons (by decide) s
  rw [readValue.eq_def]
  simp only [hbrace, hs]
  split
  case h_1 heq => exact absurd (List.cons.inj heq).1 hc
  case h_2 =>
    simp only [hread, Option.bind_eq_bind, Option.bind_some, if_pos hnames]
    rfl

theorem readItems_last {bound : Nat} {s rest behind : List Char} {v : Value}
    (hv : readValue bound s = some (v, rest)) (hrest : skipBlanks rest = ']' :: behind) :
    readItems (bound + 1) s = some ([v], behind) := by
  rw [readItems, hv]
  simp only [Option.bind_eq_bind, Option.bind_some, hrest]
  rfl

theorem readItems_more {bound : Nat} {s rest more behind : List Char} {v : Value} {vs : List Value}
    (hv : readValue bound s = some (v, rest)) (hrest : skipBlanks rest = ',' :: more)
    (hvs : readItems bound more = some (vs, behind)) :
    readItems (bound + 1) s = some (v :: vs, behind) := by
  rw [readItems, hv]
  simp only [Option.bind_eq_bind, Option.bind_some, hrest, hvs]
  rfl

section Fields

variable {bound : Nat} {s t rest behind : List Char} {name : String} {v : Value}

theorem readFields_last (hname : readString [] s = some (name, ':' :: t))
    (hv : readValue bound t = some (v, rest)) (hrest : skipBlanks rest = '}' :: behind) :
    readFields (bound + 1) ('"' :: s) = some ([(name, v)], behind) := by
  have hquote : skipBlanks ('"' :: s) = '"' :: s := skipBlanks_cons (by decide) s
  have hcolon : skipBlanks (':' :: t) = ':' :: t := skipBlanks_cons (by decide) t
  rw [readFields]
  simp only [hquote, hname, Option.bind_eq_bind, Option.bind_some, hcolon, hv, hrest]
  rfl

theorem readFields_more {more : List Char} {fields : List (String × Value)}
    (hname : readString [] s = some (name, ':' :: t)) (hv : readValue bound t = some (v, rest))
    (hrest : skipBlanks rest = ',' :: more)
    (hfields : readFields bound more = some (fields, behind)) :
    readFields (bound + 1) ('"' :: s) = some ((name, v) :: fields, behind) := by
  have hquote : skipBlanks ('"' :: s) = '"' :: s := skipBlanks_cons (by decide) s
  have hcolon : skipBlanks (':' :: t) = ':' :: t := skipBlanks_cons (by decide) t
  rw [readFields]
  simp only [hquote, hname, Option.bind_eq_bind, Option.bind_some, hcolon, hv, hrest, hfields]
  rfl

end Fields

end Reshape.Json
