import Reshape.Proofs.Node.Basic
import Reshape.Proofs.Node.Source
import Reshape.Proofs.Value.CanonicalText

/-!
# What the key of a row tells

Rows with one key hold the same data outside their folded fields, and rows with the same data have
one key, as far as canonical text tells values apart: exactly when no two of the terminal values
that occur clash (`groupKey_exact_iff_clashFree`).

The fields come first and take one place each, so a key splits into the part of the fields and that
of the leftovers. The second lists names and texts in turn, in sorted order; it shows the leftovers
and nothing of the order they came in (`restKey_eq_iff`).
-/

namespace Reshape

open Json

/-! ## Leftovers -/

instance : Std.TransCmp compareLeftovers :=
  inferInstanceAs (Std.TransCmp (compareLex (compareOn fun a : String × String => a.1)
    (compareOn fun a : String × String => a.2)))

instance : Std.LawfulEqCmp compareLeftovers where
  eq_of_compare {a b} h := by
    rw [compareLeftovers, Ordering.then_eq_eq] at h
    exact Prod.ext (Std.LawfulEqCmp.eq_of_compare h.1) (Std.LawfulEqCmp.eq_of_compare h.2)
  compare_self := Std.ReflCmp.compare_self

theorem canonicalText_string_inj {a b : String}
    (h : (Value.string a).canonicalText = (Value.string b).canonicalText) : a = b := by
  have hquoted : quoted a = quoted b := String.ofList_inj.1 h
  exact (quoted_append_inj (congrArg (· ++ []) hquoted)).1

/-- The texts of leftovers, in the order of the leftovers. -/
def restTexts (rest : List (Key × Value)) : List (String × String) :=
  rest.map fun p => (p.1.text, p.2.canonicalText)

/-- Texts of leftovers as the key lists them. -/
def listTexts (texts : List (String × String)) : GroupKey :=
  texts.flatMap fun p => [some (Value.string p.1).canonicalText, some p.2]

theorem restKey_eq_listTexts (rest : List (Key × Value)) :
    restKey rest = listTexts (stableSort compareLeftovers (restTexts rest)) := rfl

theorem listTexts_inj {xs ys : List (String × String)} (h : listTexts xs = listTexts ys) :
    xs = ys := by
  induction xs generalizing ys with
  | nil =>
    cases ys with
    | nil => rfl
    | cons q ys => cases h
  | cons p xs ih =>
    cases ys with
    | nil => cases h
    | cons q ys =>
      simp only [listTexts, List.flatMap_cons, List.cons_append, List.nil_append, List.cons.injEq,
        Option.some_inj] at h
      obtain ⟨hname, htext, hrest⟩ := h
      rw [Prod.ext (canonicalText_string_inj hname) htext, ih hrest]

/-- The leftovers' part of the key shows the texts of the leftovers and nothing of their order. -/
theorem restKey_eq_iff {as bs : List (Key × Value)} :
    restKey as = restKey bs ↔ (restTexts as).Perm (restTexts bs) := by
  rw [restKey_eq_listTexts, restKey_eq_listTexts]
  constructor
  · intro h
    exact stableSort_eq_iff_perm.1 (listTexts_inj h)
  · intro h
    rw [stableSort_eq_iff_perm.2 h]

theorem toList_toString_int (n : Int) : (toString n).toList = integer n := by
  rw [Int.toString_eq_repr, Int.repr_eq_if, integer]
  by_cases hn : n < 0
  · rw [if_neg (by omega), if_pos hn, String.toList_append, Nat.toList_repr,
      show (-n).toNat = n.natAbs by omega]
    rfl
  · rw [if_pos (by omega), if_neg hn, Nat.toList_repr, show n.toNat = n.natAbs by omega]

theorem text_injective {k l : Key} (hkind : k.kind = l.kind) (h : k.text = l.text) : k = l := by
  cases k with
  | name a =>
    cases l with
    | name b => exact congrArg Key.name h
    | position n => cases hkind
  | position m =>
    cases l with
    | name b => cases hkind
    | position n =>
      have htext : integer m.toInt = integer n.toInt := by
        rw [← toList_toString_int, ← toList_toString_int]
        exact congrArg String.toList h
      have hint := integer_injective htext
      exact congrArg Key.position (Int64.toInt_inj.1 hint)

theorem nodup_texts {keys : List Key} {kind : KeyKind} (h : keys.Nodup)
    (hkind : ∀ k ∈ keys, k.kind = kind) : (keys.map Key.text).Nodup := by
  refine (List.nodup_map_iff_inj_on h).2 ?_
  intro k hk l hl htext
  exact text_injective ((hkind k hk).trans (hkind l hl).symm) htext

/-! ## Rows with the same data -/

/-- Whether two values that may be absent are both absent, or both present and equal. -/
def equalOption : Option Value → Option Value → Bool
  | none, none => true
  | some v, some w => v.equal w
  | _, _ => false

/-- A row as a node makes it: one value for each of its fields and leftovers under keys of one kind,
no key twice, with all terminal values of a class. -/
structure RowOver (T : Value → Prop) (kind : KeyKind) (width : Nat) (row : Row) : Prop where
  length : row.values.length = width
  values : ∀ v, some v ∈ row.values → v.Over T
  nodup : (row.rest.map (·.1)).Nodup
  kinds : ∀ p ∈ row.rest, p.1.kind = kind
  rest : ∀ p ∈ row.rest, p.2.Over T

/-- Whether two rows hold the same data outside the folded fields: the same values in the fields and
the same leftovers under the same keys. -/
structure SameData (folds : Folds) (a b : Row) : Prop where
  fields : ∀ field, folds[field]? = some none → equalOption (a.value field) (b.value field) = true
  leftovers : ∀ key, equalOption (a.rest.lookup key) (b.rest.lookup key) = true

variable {T : Value → Prop} {kind : KeyKind} {width : Nat} {folds : Folds} {a b : Row}

open Value (ClashFree canonicalText_eq_iff)

theorem map_canonicalText_eq_iff (hT : ClashFree T) {v w : Option Value}
    (hv : ∀ x, v = some x → x.Over T) (hw : ∀ x, w = some x → x.Over T) :
    v.map Value.canonicalText = w.map Value.canonicalText ↔ equalOption v w = true := by
  cases v <;> cases w
  · simp [equalOption]
  · simp [equalOption]
  · simp [equalOption]
  · rw [Option.map_some, Option.map_some, Option.some_inj,
      canonicalText_eq_iff hT (hv _ rfl) (hw _ rfl), equalOption]

/-! ### Leftovers -/

theorem mem_restTexts_iff {rest : List (Key × Value)} {p : String × String} :
    p ∈ restTexts rest ↔ ∃ q ∈ rest, (q.1.text, q.2.canonicalText) = p :=
  List.mem_map

theorem RowOver.nodup_restTexts (h : RowOver T kind width a) : (restTexts a.rest).Nodup := by
  have hkeys : (restTexts a.rest).map (·.1) = (a.rest.map (·.1)).map Key.text := by
    rw [restTexts, List.map_map, List.map_map]
    rfl
  refine List.Nodup.of_map (·.1) ?_
  rw [hkeys]
  exact nodup_texts h.nodup (List.forall_mem_map.2 h.kinds)

/-- Which leftover a row has under a key can be read off the texts. -/
theorem RowOver.mem_restTexts_iff_lookup (h : RowOver T kind width a) {key : Key}
    (hkind : key.kind = kind) {text : String} :
    (key.text, text) ∈ restTexts a.rest ↔
      (a.rest.lookup key).map Value.canonicalText = some text := by
  rw [mem_restTexts_iff, Option.map_eq_some_iff]
  constructor
  · rintro ⟨⟨key', v⟩, hmem, htexts⟩
    obtain ⟨hkey, htext⟩ := Prod.ext_iff.1 htexts
    obtain rfl := text_injective ((h.kinds _ hmem).trans hkind.symm) hkey
    exact ⟨v, (lookup_eq_some_iff_mem h.nodup).2 hmem, htext⟩
  · rintro ⟨v, hlookup, rfl⟩
    exact ⟨(key, v), (lookup_eq_some_iff_mem h.nodup).1 hlookup, rfl⟩

theorem RowOver.lookup_eq_none (h : RowOver T kind width a) {key : Key} (hkind : key.kind ≠ kind) :
    a.rest.lookup key = none := by
  cases hlookup : a.rest.lookup key with
  | none => rfl
  | some v => exact absurd (h.kinds _ ((lookup_eq_some_iff_mem h.nodup).1 hlookup)) hkind

/-- Rows have the same texts of leftovers when they have them key by key. -/
theorem RowOver.restTexts_perm_iff (ha : RowOver T kind width a) (hb : RowOver T kind width b) :
    (restTexts a.rest).Perm (restTexts b.rest) ↔
      ∀ key, (a.rest.lookup key).map Value.canonicalText =
        (b.rest.lookup key).map Value.canonicalText := by
  rw [List.perm_ext_iff_of_nodup ha.nodup_restTexts hb.nodup_restTexts]
  constructor
  · intro h key
    by_cases hkind : key.kind = kind
    · refine Option.ext ?_
      intro text
      rw [← ha.mem_restTexts_iff_lookup hkind, h, hb.mem_restTexts_iff_lookup hkind]
    · rw [ha.lookup_eq_none hkind, hb.lookup_eq_none hkind]
  · intro h p
    have hone : ∀ {c d : Row}, RowOver T kind width c → RowOver T kind width d →
        (∀ key, (c.rest.lookup key).map Value.canonicalText =
          (d.rest.lookup key).map Value.canonicalText) →
        p ∈ restTexts c.rest → p ∈ restTexts d.rest := by
      intro c d hc hd h hp
      obtain ⟨⟨key, v⟩, hmem, rfl⟩ := mem_restTexts_iff.1 hp
      have hkind := hc.kinds _ hmem
      rw [hd.mem_restTexts_iff_lookup hkind, ← h, ← hc.mem_restTexts_iff_lookup hkind]
      exact hp
    exact ⟨hone ha hb h, hone hb ha fun key => (h key).symm⟩

/-! ### Fields -/

/-- The part of the key that the fields contribute. -/
def fieldsKey (folds : Folds) (values : List (Option Value)) : GroupKey :=
  (folds.zip values).filterMap fun (fold, value) =>
    if fold.isNone then some (value.map Value.canonicalText) else none

theorem groupKey_eq_append (folds : Folds) (row : Row) :
    groupKey folds row = fieldsKey folds row.values ++ restKey row.rest := rfl

/-- The fields' part of the key has a place for each field that is not folded. -/
theorem length_fieldsKey {values : List (Option Value)} (h : values.length = folds.length) :
    (fieldsKey folds values).length = folds.countP Option.isNone := by
  induction folds generalizing values with
  | nil => rfl
  | cons fold folds ih =>
    cases values with
    | nil => cases h
    | cons value values =>
      have hrest := ih (Nat.succ.inj h)
      cases fold with
      | none => simpa [fieldsKey] using hrest
      | some f => simpa [fieldsKey] using hrest

theorem fieldsKey_eq_iff {as bs : List (Option Value)} (ha : as.length = folds.length)
    (hb : bs.length = folds.length) : fieldsKey folds as = fieldsKey folds bs ↔
      ∀ field : Nat, folds[field]? = some none →
        (as[field]?).join.map Value.canonicalText = (bs[field]?).join.map Value.canonicalText := by
  induction folds generalizing as bs with
  | nil => simp [fieldsKey]
  | cons fold folds ih =>
    cases as with
    | nil => cases ha
    | cons a as =>
      cases bs with
      | nil => cases hb
      | cons b bs =>
        have hrest := ih (Nat.succ.inj ha) (Nat.succ.inj hb)
        rw [← Nat.and_forall_add_one]
        cases fold with
        | none =>
          have hhead : ∀ (v : Option Value) vs, fieldsKey (none :: folds) (v :: vs) =
              v.map Value.canonicalText :: fieldsKey folds vs := fun _ _ => rfl
          rw [hhead, hhead, List.cons.injEq, hrest]
          simp
        | some f =>
          have hhead : ∀ (v : Option Value) vs, fieldsKey (some f :: folds) (v :: vs) =
              fieldsKey folds vs := fun _ _ => rfl
          rw [hhead, hhead, hrest]
          simp

/-! ## Keys -/

theorem RowOver.value_over (h : RowOver T kind width a) (field : Nat) :
    ∀ v, a.value field = some v → v.Over T := by
  intro v hv
  rw [Row.value, Option.join_eq_some_iff] at hv
  exact h.values v (List.mem_of_getElem? hv)

theorem RowOver.lookup_over (h : RowOver T kind width a) (key : Key) :
    ∀ v, a.rest.lookup key = some v → v.Over T := fun _ hv =>
  h.rest _ ((lookup_eq_some_iff_mem h.nodup).1 hv)

/-- Rows over a class without clashes have one key exactly when they hold the same data. -/
theorem groupKey_eq_iff_sameData (hT : ClashFree T) (ha : RowOver T kind folds.length a)
    (hb : RowOver T kind folds.length b) :
    groupKey folds a = groupKey folds b ↔ SameData folds a b := by
  have hlength : (fieldsKey folds a.values).length = (fieldsKey folds b.values).length := by
    rw [length_fieldsKey ha.length, length_fieldsKey hb.length]
  have hfields : fieldsKey folds a.values = fieldsKey folds b.values ↔
      ∀ field : Nat, folds[field]? = some none →
        equalOption (a.value field) (b.value field) = true := by
    rw [fieldsKey_eq_iff ha.length hb.length]
    refine forall₂_congr ?_
    intro field _
    exact map_canonicalText_eq_iff hT (ha.value_over field) (hb.value_over field)
  have hrest : restKey a.rest = restKey b.rest ↔
      ∀ key, equalOption (a.rest.lookup key) (b.rest.lookup key) = true := by
    rw [restKey_eq_iff, ha.restTexts_perm_iff hb]
    refine forall_congr' ?_
    intro key
    exact map_canonicalText_eq_iff hT (ha.lookup_over key) (hb.lookup_over key)
  rw [groupKey_eq_append, groupKey_eq_append]
  constructor
  · intro h
    obtain ⟨hf, hr⟩ := List.append_inj h hlength
    exact ⟨hfields.1 hf, hrest.1 hr⟩
  · rintro ⟨hf, hr⟩
    rw [hfields.2 hf, hrest.2 hr]

/-! ## Rows of a node -/

/-- The values of a row are built of terminal values of a class. -/
def Row.Over (T : Value → Prop) (row : Row) : Prop :=
  (∀ v, some v ∈ row.values → v.Over T) ∧ ∀ p ∈ row.rest, p.2.Over T

namespace Node

variable (node : Node)

theorem length_folds : node.folds.length = node.fields.length := List.length_map _

theorem keys_leftovers_sublist (mapper : Mapper) (input : Value) :
    ((node.leftovers mapper input).map (·.1)).Sublist
      ((node.strategy.source.entries input).map (·.1)) := by
  unfold leftovers
  dsimp only
  induction node.strategy.source.entries input with
  | nil => exact .slnil
  | cons entry entries ih =>
    obtain ⟨key, v⟩ := entry
    rw [List.filterMap_cons]
    dsimp only
    split
    case h_1 => exact ih.cons _
    case h_2 p hp =>
      split at hp
      · cases hp
      · obtain ⟨w, -, rfl⟩ := Option.map_eq_some_iff.1 hp
        exact ih.cons_cons _

/-- The leftovers of a row are under keys of the kind that the node reads, no key twice. -/
theorem rest_of_extract {input : Value} {row : Row} (h : node.extract input = some row)
    (hkeys : input.DistinctKeys) :
    (row.rest.map (·.1)).Nodup ∧ ∀ p ∈ row.rest, p.1.kind = node.strategy.source := by
  have hnil : row.rest = [] → (row.rest.map (·.1)).Nodup ∧
      ∀ p ∈ row.rest, p.1.kind = node.strategy.source := fun hrest => by simp [hrest]
  rcases node.extract_cases h with ⟨-, rfl⟩ | ⟨-, -, -, ⟨-, hrest⟩ | ⟨mapper, -, hrest⟩⟩
  · exact hnil rfl
  · exact hnil hrest
  · rw [hrest]
    refine ⟨(node.keys_leftovers_sublist _ _).nodup (KeyKind.nodup_entries hkeys), ?_⟩
    intro p hp
    obtain ⟨v, hmem, -⟩ := (mem_leftovers _).1 hp
    exact KeyKind.kind_of_mem_entries (p := (p.1, v)) hmem

/-- What a node extracts from a record is a row of the node. -/
theorem rowOver_of_extract {input : Value} {row : Row} (h : node.extract input = some row)
    (hkeys : input.DistinctKeys) (hrow : row.Over T) :
    RowOver T node.strategy.source node.folds.length row := by
  obtain ⟨hnodup, hkinds⟩ := rest_of_extract node h hkeys
  refine ⟨?_, hrow.1, hnodup, hkinds, hrow.2⟩
  rw [length_folds]
  rcases node.extract_cases h with ⟨-, rfl⟩ | ⟨-, hvalues, -, -⟩
  · exact List.length_map _
  · rw [hvalues, List.length_map]

end Node

/-- A node that keys the records of a list by a single field. -/
def Node.ofName (name : String) : Node :=
  ⟨⟨.name, .name⟩, [⟨.name name, .name name, id, some .group, none⟩], [], none, none, false⟩

theorem Value.Clash.isTerminal {t u : Value} (h : Value.Clash t u) :
    t.isTerminal = true ∧ u.isTerminal = true := by
  cases h with
  | null ht hu _ =>
    constructor
    · cases t <;> first | rfl | cases ht
    · cases u <;> first | rfl | cases hu
  | intFloat _ _ => exact ⟨rfl, rfl⟩
  | floatInt _ _ => exact ⟨rfl, rfl⟩

theorem extract_ofName {t : Value} (ht : t.isTerminal = true) (name : String) :
    (Node.ofName name).extract t = some ⟨[some t], []⟩ := by
  rw [Node.extract, if_pos ht]
  rfl

theorem over_singleton {t : Value} (ht : t.isTerminal = true) (hT : T t) :
    Row.Over T ⟨[some t], []⟩ := by
  refine ⟨fun v hv => ?_, fun _ hp => nomatch hp⟩
  obtain rfl : v = t := by simpa using hv
  exact (Value.over_of_isTerminal ht).2 hT

theorem groupKey_singleton_iff {t u : Value} :
    groupKey [none] ⟨[some t], []⟩ = groupKey [none] ⟨[some u], []⟩ ↔
      t.canonicalText = u.canonicalText := by
  simp [groupKey, restKey, stableSort]

theorem sameData_singleton_iff {t u : Value} :
    SameData [none] ⟨[some t], []⟩ ⟨[some u], []⟩ ↔ t.equal u = true := by
  constructor
  · intro hsame
    exact hsame.fields 0 rfl
  · intro hequal
    refine ⟨fun field hfield => ?_, fun key => rfl⟩
    cases field with
    | zero => exact hequal
    | succ field => cases hfield

/-- The rows of a node over some class of terminal values are grouped by the data they hold, for
every node, exactly when no two of the terminal values clash. -/
theorem groupKey_exact_iff_clashFree (T : Value → Prop) :
    (∀ (node : Node) (v w : Value) (a b : Row), v.DistinctKeys → w.DistinctKeys →
        node.extract v = some a → node.extract w = some b → a.Over T → b.Over T →
        (groupKey node.folds a = groupKey node.folds b ↔ SameData node.folds a b)) ↔
      ClashFree T := by
  constructor
  · intro h t u ht hu hclash
    obtain ⟨htt, hut⟩ := hclash.isTerminal
    have hdistinct : ∀ {v : Value}, v.isTerminal = true → v.DistinctKeys := by
      intro v hv
      cases v <;> trivial
    have hrows := h (.ofName "") t u _ _ (hdistinct htt) (hdistinct hut) (extract_ofName htt "")
      (extract_ofName hut "") (over_singleton htt ht) (over_singleton hut hu)
    refine (Value.canonicalText_iff_equal_iff htt hut).1 ?_ hclash
    exact groupKey_singleton_iff.symm.trans (hrows.trans sameData_singleton_iff)
  · intro hT node v w a b hv hw ha hb hao hbo
    exact groupKey_eq_iff_sameData hT (node.rowOver_of_extract ha hv hao)
      (node.rowOver_of_extract hb hw hbo)

/-- Records that hold texts only are grouped by their data. A number from `2 ^ 60` on is in a group
of its own, apart from the integer that it equals, and an infinite number is in one group with null.
-/
theorem groupKey_inexact_for_numbers :
    let keys := fun t u : Value =>
      groupKey [none] ⟨[some t], []⟩ = groupKey [none] ⟨[some u], []⟩
    let large := Value.int 1152921504606846976
    let large' := Value.float (Value.floatOfInt 1152921504606846976)
    let infinite := Value.float (Binary64.ofMagnitude false Binary64.infinityMagnitude)
    (∀ a b : String, keys (.string a) (.string b) ↔ (Value.string a).equal (.string b) = true) ∧
      large.equal large' = true ∧ ¬keys large large' ∧
      Value.null.equal infinite = false ∧ keys .null infinite := by
  intro keys large large' infinite
  have hkeys : ∀ {t u : Value}, keys t u ↔ t.canonicalText = u.canonicalText :=
    groupKey_singleton_iff
  refine ⟨fun a b => ?_, by decide +kernel, ?_, by decide +kernel, ?_⟩
  · have hclash : ClashFree fun v => v.textKind = .string := by
      intro t u ht _ hclash
      cases hclash with
      | null ht' _ _ =>
        rw [Value.textKind_of_isWrittenNull ht'] at ht
        cases ht
      | intFloat _ _ => cases ht
      | floatInt h _ =>
        rw [Value.textKind_eq_of_equal rfl rfl h] at ht
        cases ht
    exact ((groupKey_exact_iff_clashFree _).2 hclash (.ofName "") (.string a) (.string b) _ _
      trivial trivial (extract_ofName rfl "") (extract_ofName rfl "") (over_singleton rfl rfl)
      (over_singleton rfl rfl)).trans sameData_singleton_iff
  · rw [hkeys]
    decide +kernel
  · rw [hkeys]
    decide +kernel

end Reshape
