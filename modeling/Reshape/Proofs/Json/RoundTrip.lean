import Reshape.Proofs.Json.Reading

/-!
# Printed values read back

Whatever blanks a notation puts between the parts, reading what it prints gives back the value, with
all fields in their order (`parse?_print`). The bound on the work is the length of the text, which
is enough for every nested value because each of them takes at least one character.

Without the blanks outside its strings a text is the compact text (`deleteBlanks_print`). Together
with the grammar this is what printed JSON promises (`Value.printed_denotes`).
-/

namespace Reshape

namespace Json

variable {style : Style}

/-! ## Reading back -/

theorem delimited_blanks_append {b r : List Char} (hb : IsBlanks b) (hr : Delimited r) :
    Delimited (b ++ r) := by
  cases b with
  | nil => exact hr
  | cons c b =>
    rintro d ⟨⟩
    rw [Bool.eq_false_iff]
    intro hplain
    have hblank := hb c List.mem_cons_self
    rw [isBlank_of_isPlain hplain] at hblank
    cases hblank

theorem Style.Blank.delimited_lineBreak (hstyle : style.Blank) (depth : Nat) (r : List Char)
    (hr : Delimited r) : Delimited (style.lineBreak depth ++ r) :=
  delimited_blanks_append (hstyle.lineBreak depth) hr

theorem length_printItems_pos (style : Style) (depth : Nat) (vs : List Value) :
    0 < (printItems style depth vs).length := by
  cases vs <;> simp [printItems]

theorem length_printFields_pos (style : Style) (depth : Nat) (fields : List (String × Value)) :
    0 < (printFields style depth fields).length := by
  rcases fields with _ | ⟨⟨name, v⟩, fields⟩ <;> simp [printFields]

mutual

/-- A printed value is read back, whatever stands behind it. -/
theorem readValue_print (hstyle : style.Blank) (depth : Nat) (v : Value) (hv : v.FloatFree)
    (bound : Nat) (hbound : (print style depth v).length ≤ bound) {rest : List Char}
    (hrest : Delimited rest) : readValue bound (print style depth v ++ rest) = some (v, rest) := by
  obtain ⟨c, cs, hcons, -, -⟩ := (isValue_print hstyle depth v hv).exists_eq_cons
  obtain ⟨bound, rfl⟩ : ∃ n, bound = n + 1 := by
    rw [hcons, List.length_cons] at hbound
    exact ⟨bound - 1, by omega⟩
  cases v with
  | null => rfl
  | bool b => cases b <;> rfl
  | int n =>
    rw [print] at hcons ⊢
    have hnumeral := isNumeral_of_mem_integer n.toInt c (hcons ▸ List.mem_cons_self)
    rw [hcons, List.cons_append, readValue_number hnumeral, ← List.cons_append, ← hcons,
      readNumber_integer n hrest]
  | float x => exact absurd rfl (hv x)
  | string s =>
    have hprint : print style depth (.string s) ++ rest =
        '"' :: (s.toList.flatMap escape ++ '"' :: rest) := by
      simp [print, quoted]
    rw [hprint, readValue.eq_def]
    simp only [skipBlanks_cons (show isBlank '"' = false by decide), readString_toList]
    rfl
  | array items =>
    cases items with
    | nil => rfl
    | cons v vs =>
      obtain ⟨d, t, hd, hblank, hopen⟩ := (isValue_print hstyle (depth + 1) v hv.1).exists_eq_cons
      have hpos := length_printItems_pos style depth vs
      rw [print] at hbound ⊢
      simp only [List.length_append, List.length_cons] at hbound
      obtain ⟨inner, rfl⟩ : ∃ n, bound = n + 1 := ⟨bound - 1, by omega⟩
      have hfirst := readValue_print hstyle (depth + 1) v hv.1 inner (by omega)
        (delimited_printItems (hstyle.delimited_lineBreak depth) vs rest)
      have hitems := readItems_printItems hstyle depth vs hv.2 (by omega) hfirst
      have hskip : skipBlanks (style.lineBreak (depth + 1) ++
          (print style (depth + 1) v ++ (printItems style depth vs ++ rest))) =
          d :: (t ++ (printItems style depth vs ++ rest)) := by
        rw [skipBlanks_append (hstyle.lineBreak (depth + 1)), hd, List.cons_append,
          skipBlanks_cons hblank]
      simp only [List.cons_append, List.append_assoc]
      rw [readValue_array hskip hopen, ← List.cons_append, ← hd, hitems]
      rfl
  | object fields =>
    rcases fields with _ | ⟨⟨name, v⟩, fields⟩
    · rfl
    · have hpos := length_printFields_pos style depth fields
      rw [print] at hbound ⊢
      simp only [List.length_append, List.length_cons] at hbound
      obtain ⟨inner, rfl⟩ : ∃ n, bound = n + 1 := ⟨bound - 1, by omega⟩
      have hfirst := readValue_print hstyle (depth + 1) v hv.2.1 inner (by omega)
        (delimited_printFields (hstyle.delimited_lineBreak depth) fields rest)
      rw [← readValue_blanks hstyle.afterColon] at hfirst
      have hfields := readFields_printFields hstyle depth fields hv.2.2 (by omega) name hfirst
      have hskip : skipBlanks (style.lineBreak (depth + 1) ++ (quoted name ++ ':' ::
          (style.afterColon ++ (print style (depth + 1) v ++
            (printFields style depth fields ++ rest))))) =
          quoted name ++ ':' :: (style.afterColon ++ (print style (depth + 1) v ++
            (printFields style depth fields ++ rest))) := by
        rw [skipBlanks_append (hstyle.lineBreak (depth + 1))]
        exact skipBlanks_cons (by decide) _
      simp only [List.cons_append, List.append_assoc]
      exact readValue_object hskip (by decide) (inner + 1) hfields hv.1

/-- Items behind one that is read are read up to the closing bracket. -/
theorem readItems_printItems (hstyle : style.Blank) (depth : Nat) (vs : List Value)
    (hvs : Value.OverItems Value.NoFloat vs) {bound : Nat}
    (hbound : (printItems style depth vs).length ≤ bound + 1) {s rest : List Char} {v : Value}
    (hv : readValue bound s = some (v, printItems style depth vs ++ rest)) :
    readItems (bound + 1) s = some (v :: vs, rest) := by
  cases vs with
  | nil =>
    refine readItems_last hv ?_
    rw [printItems, List.append_assoc, skipBlanks_append (hstyle.lineBreak depth)]
    exact skipBlanks_cons (by decide) rest
  | cons w ws =>
    have hpos := length_printItems_pos style depth ws
    rw [printItems] at hbound hv
    simp only [List.length_append, List.length_cons] at hbound
    obtain ⟨inner, rfl⟩ : ∃ n, bound = n + 1 := ⟨bound - 1, by omega⟩
    have hnext := readValue_print hstyle (depth + 1) w hvs.1 inner (by omega)
      (delimited_printItems (hstyle.delimited_lineBreak depth) ws rest)
    rw [← readValue_blanks (hstyle.lineBreak (depth + 1))] at hnext
    have hrest := readItems_printItems hstyle depth ws hvs.2 (by omega) hnext
    simp only [List.cons_append, List.append_assoc] at hv
    exact readItems_more hv (skipBlanks_cons (by decide) _) hrest

/-- Fields behind one that is read are read up to the closing brace. -/
theorem readFields_printFields (hstyle : style.Blank) (depth : Nat)
    (fields : List (String × Value)) (hfields : Value.OverFields Value.NoFloat fields) {bound : Nat}
    (hbound : (printFields style depth fields).length ≤ bound + 1) {s rest : List Char}
    (name : String) {v : Value}
    (hv : readValue bound s = some (v, printFields style depth fields ++ rest)) :
    readFields (bound + 1) (quoted name ++ ':' :: s) = some ((name, v) :: fields, rest) := by
  have hname : readString [] (name.toList.flatMap escape ++ '"' :: ':' :: s) =
      some (name, ':' :: s) := readString_toList name (':' :: s)
  rw [quoted, List.cons_append, List.cons_append, List.append_assoc, List.singleton_append]
  rcases fields with _ | ⟨⟨next, w⟩, fields⟩
  · refine readFields_last hname hv ?_
    rw [printFields, List.append_assoc, skipBlanks_append (hstyle.lineBreak depth)]
    exact skipBlanks_cons (by decide) rest
  · have hpos := length_printFields_pos style depth fields
    rw [printFields] at hbound hv
    simp only [List.length_append, List.length_cons] at hbound
    obtain ⟨inner, rfl⟩ : ∃ n, bound = n + 1 := ⟨bound - 1, by omega⟩
    have hnext := readValue_print hstyle (depth + 1) w hfields.1 inner (by omega)
      (delimited_printFields (hstyle.delimited_lineBreak depth) fields rest)
    rw [← readValue_blanks hstyle.afterColon] at hnext
    have hrest := readFields_printFields hstyle depth fields hfields.2 (by omega) next hnext
    rw [← readFields_blanks (hstyle.lineBreak (depth + 1))] at hrest
    simp only [List.cons_append, List.append_assoc] at hv
    exact readFields_more hname hv (skipBlanks_cons (by decide) _) hrest

end

/-- What a notation prints is read back. -/
theorem parse?_print (hstyle : style.Blank) {v : Value} (hv : v.FloatFree) :
    parse? (String.ofList (print style 0 v)) = some v := by
  have hempty : Delimited [] := fun _ h => nomatch h
  have hread := readValue_print hstyle 0 v hv ((print style 0 v).length + 1) (Nat.le_succ _) hempty
  rw [List.append_nil] at hread
  rw [parse?, String.toList_ofList, hread]
  rfl

/-! ## Blanks outside strings -/

/-- Where a scan of a text stands: outside strings, inside one, or inside behind a backslash. -/
inductive Scan where
  | outside
  | inside
  | escaped
deriving DecidableEq

/-- Where a scan stands behind one more character. -/
def Scan.next : Scan → Char → Scan
  | .outside, c => if c = '"' then .inside else .outside
  | .inside, c => if c = '"' then .outside else if c = '\\' then .escaped else .inside
  | .escaped, _ => .inside

/-- A text without the blanks outside its strings. -/
def deleteBlanks : Scan → List Char → List Char
  | _, [] => []
  | place, c :: s =>
    if place = .outside ∧ isBlank c = true then deleteBlanks place s
    else c :: deleteBlanks (place.next c) s

theorem deleteBlanks_blanks {b : List Char} (hb : IsBlanks b) (s : List Char) :
    deleteBlanks .outside (b ++ s) = deleteBlanks .outside s := by
  induction b with
  | nil => rfl
  | cons c b ih =>
    obtain ⟨hc, hb⟩ := List.forall_mem_cons.1 hb
    rw [List.cons_append, deleteBlanks, if_pos ⟨rfl, hc⟩, ih hb]

theorem deleteBlanks_outside {c : Char} (hblank : isBlank c = false) (hquote : c ≠ '"')
    (s : List Char) : deleteBlanks .outside (c :: s) = c :: deleteBlanks .outside s := by
  rw [deleteBlanks, if_neg (by simp [hblank]), Scan.next, if_neg hquote]

/-- A number and a name are kept. -/
theorem deleteBlanks_plain {t : List Char} (ht : ∀ c ∈ t, isPlain c = true) (s : List Char) :
    deleteBlanks .outside (t ++ s) = t ++ deleteBlanks .outside s := by
  induction t with
  | nil => rfl
  | cons c t ih =>
    obtain ⟨hc, ht⟩ := List.forall_mem_cons.1 ht
    have hquote : c ≠ '"' := by
      rintro rfl
      exact absurd hc (by decide)
    rw [List.cons_append, deleteBlanks_outside (isBlank_of_isPlain hc) hquote, ih ht]
    rfl

theorem deleteBlanks_inside {c : Char} (hquote : c ≠ '"') (hslash : c ≠ '\\') (s : List Char) :
    deleteBlanks .inside (c :: s) = c :: deleteBlanks .inside s := by
  rw [deleteBlanks, if_neg (fun h => nomatch h.1), Scan.next, if_neg hquote, if_neg hslash]

/-- Behind a backslash every character is kept, a quote and a backslash among them. -/
theorem deleteBlanks_backslash (c : Char) (s : List Char) :
    deleteBlanks .inside ('\\' :: c :: s) = '\\' :: c :: deleteBlanks .inside s := by
  rw [deleteBlanks, deleteBlanks]
  rfl

/-- An escaped character is kept, and no quote in it ends the string. -/
theorem deleteBlanks_escape (c : Char) (s : List Char) :
    deleteBlanks .inside (escape c ++ s) = escape c ++ deleteBlanks .inside s := by
  rcases escape_cases c with ⟨hself, hquote, hslash⟩ | ⟨k, -, hshort⟩ | ⟨hlow, hunit⟩
  · rw [hself]
    exact deleteBlanks_inside hquote hslash s
  · rw [hshort]
    exact deleteBlanks_backslash k s
  · have hdigit : ∀ n < 16, hexDigit n ≠ '"' ∧ hexDigit n ≠ '\\' := by decide
    obtain ⟨hquote, hslash⟩ := hdigit (c.toNat / 16) (by omega)
    obtain ⟨hquote', hslash'⟩ := hdigit (c.toNat % 16) (by omega)
    rw [hunit]
    simp only [List.cons_append, List.nil_append]
    rw [deleteBlanks_backslash, deleteBlanks_inside (by decide) (by decide),
      deleteBlanks_inside (by decide) (by decide), deleteBlanks_inside hquote hslash,
      deleteBlanks_inside hquote' hslash']

theorem deleteBlanks_quoted (text : String) (s : List Char) :
    deleteBlanks .outside (quoted text ++ s) = quoted text ++ deleteBlanks .outside s := by
  have hinside : ∀ cs : List Char, deleteBlanks .inside (cs.flatMap escape ++ '"' :: s) =
      cs.flatMap escape ++ '"' :: deleteBlanks .outside s := by
    intro cs
    induction cs with
    | nil => rfl
    | cons c cs ih =>
      rw [List.flatMap_cons, List.append_assoc, deleteBlanks_escape, ih, List.append_assoc]
  simp only [quoted, List.cons_append, List.append_assoc, List.nil_append]
  exact congrArg ('"' :: ·) (hinside text.toList)

mutual

/-- Without its blanks a printed value is the compact text. -/
theorem deleteBlanks_print (hstyle : style.Blank) (hnumber : style.number = finiteNumber)
    (d e : Nat) (v : Value) (s : List Char) :
    deleteBlanks .outside (print style d v ++ s) =
      print .compact e v ++ deleteBlanks .outside s := by
  have hplain : print style d v = print .compact e v → opening? v = none →
      deleteBlanks .outside (print style d v ++ s) =
        print .compact e v ++ deleteBlanks .outside s := by
    intro hsame hopening
    rw [hsame, deleteBlanks_plain (isPlain_of_mem_print hopening e)]
  cases v with
  | null => exact hplain rfl rfl
  | bool b => cases b <;> exact hplain rfl rfl
  | int n => exact hplain rfl rfl
  | float x => exact hplain (congrFun hnumber x) rfl
  | string text => exact deleteBlanks_quoted text s
  | array items =>
    cases items with
    | nil => rfl
    | cons v vs =>
      rw [print, print]
      simp only [List.cons_append, List.append_assoc]
      rw [deleteBlanks_outside (by decide) (by decide),
        deleteBlanks_blanks (hstyle.lineBreak (d + 1)),
        deleteBlanks_print hstyle hnumber (d + 1) (e + 1) v,
        deleteBlanks_printItems hstyle hnumber d e vs]
      rfl
  | object fields =>
    rcases fields with _ | ⟨⟨name, v⟩, fields⟩
    · rfl
    · rw [print, print]
      simp only [List.cons_append, List.append_assoc]
      rw [deleteBlanks_outside (by decide) (by decide),
        deleteBlanks_blanks (hstyle.lineBreak (d + 1)), deleteBlanks_quoted,
        deleteBlanks_outside (by decide) (by decide), deleteBlanks_blanks hstyle.afterColon,
        deleteBlanks_print hstyle hnumber (d + 1) (e + 1) v,
        deleteBlanks_printFields hstyle hnumber d e fields]
      rfl

theorem deleteBlanks_printItems (hstyle : style.Blank) (hnumber : style.number = finiteNumber)
    (d e : Nat) (vs : List Value) (s : List Char) :
    deleteBlanks .outside (printItems style d vs ++ s) =
      printItems .compact e vs ++ deleteBlanks .outside s := by
  cases vs with
  | nil =>
    rw [printItems, printItems, List.append_assoc, deleteBlanks_blanks (hstyle.lineBreak d)]
    exact deleteBlanks_outside (by decide) (by decide) s
  | cons v vs =>
    rw [printItems, printItems]
    simp only [List.cons_append, List.append_assoc]
    rw [deleteBlanks_outside (by decide) (by decide),
      deleteBlanks_blanks (hstyle.lineBreak (d + 1)),
      deleteBlanks_print hstyle hnumber (d + 1) (e + 1) v,
      deleteBlanks_printItems hstyle hnumber d e vs]
    rfl

theorem deleteBlanks_printFields (hstyle : style.Blank) (hnumber : style.number = finiteNumber)
    (d e : Nat) (fields : List (String × Value)) (s : List Char) :
    deleteBlanks .outside (printFields style d fields ++ s) =
      printFields .compact e fields ++ deleteBlanks .outside s := by
  rcases fields with _ | ⟨⟨name, v⟩, fields⟩
  · rw [printFields, printFields, List.append_assoc, deleteBlanks_blanks (hstyle.lineBreak d)]
    exact deleteBlanks_outside (by decide) (by decide) s
  · rw [printFields, printFields]
    simp only [List.cons_append, List.append_assoc]
    rw [deleteBlanks_outside (by decide) (by decide),
      deleteBlanks_blanks (hstyle.lineBreak (d + 1)), deleteBlanks_quoted,
      deleteBlanks_outside (by decide) (by decide), deleteBlanks_blanks hstyle.afterColon,
      deleteBlanks_print hstyle hnumber (d + 1) (e + 1) v,
      deleteBlanks_printFields hstyle hnumber d e fields]
    rfl

end

/-- A text without the blanks outside its strings. -/
def withoutBlanks (text : String) : String := String.ofList (deleteBlanks .outside text.toList)

end Json

namespace Value

open Json

theorem withoutBlanks_pretty (v : Value) : withoutBlanks v.pretty = v.compact := by
  have hkept := deleteBlanks_print Style.blank_pretty rfl 0 0 v []
  rw [List.append_nil, deleteBlanks, List.append_nil] at hkept
  rw [withoutBlanks, pretty, String.toList_ofList, hkept, compact]

/-- Printed JSON is JSON and denotes its value. Both notations are texts of the grammar that read
back to the value, with its fields in order and its integers exact, and they differ in nothing but
blanks outside strings. -/
theorem printed_denotes {v : Value} (hv : v.FloatFree) :
    (IsText v.compact.toList ∧ IsText v.pretty.toList) ∧
    (parse? v.compact = some v ∧ parse? v.pretty = some v) ∧
    withoutBlanks v.pretty = v.compact := by
  refine ⟨⟨?_, ?_⟩, ⟨?_, ?_⟩, withoutBlanks_pretty v⟩
  · rw [compact, String.toList_ofList]
    exact isText_print Style.blank_compact hv
  · rw [pretty, String.toList_ofList]
    exact isText_print Style.blank_pretty hv
  · exact parse?_print Style.blank_compact hv
  · exact parse?_print Style.blank_pretty hv

/-- Names that are not sorted, every kind of escape, a character past the first plane, the least
integer and containers that are empty. -/
theorem printed_denotes_nested :
    let v : Value := .object [("b\"", .array [.int Int64.minValue, .null, .object []]),
      ("a\\", .string "\n\x00\x7f \u009fé𝄞/"), ("", .array [.array [], .bool false])]
    v.FloatFree ∧ IsText v.pretty.toList ∧ parse? v.pretty = some v ∧
      withoutBlanks v.pretty = "\x7b\"b\\\"\":[-9223372036854775808,null,\x7b\x7d]," ++
        "\"a\\\\\":\"\\n\\u0000\\u007f \\u009fé𝄞/\",\"\":[[],false]\x7d" := by
  intro v
  have hv : v.FloatFree := by
    simp [v, FloatFree, Over, OverItems, OverFields, NoFloat]
  obtain ⟨⟨-, hgrammar⟩, ⟨-, hread⟩, hblanks⟩ := printed_denotes hv
  refine ⟨hv, hgrammar, hread, hblanks.trans ?_⟩
  decide +kernel

end Value

end Reshape
