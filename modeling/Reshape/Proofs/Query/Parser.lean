import Reshape.Query.Weight

/-!
# Parsing piece by piece

What is written behind the first element of a pipeline is a selector of its own, whether the
pipeline is a chain or aggregates (`Selector.parseRest`), and each key of an object selector adds a
part of its own to it (`WrittenPart`). Proofs about parsing follow these pieces, and not the single
forms of arrays and objects.
-/

namespace Reshape

/-! ## Pipelines -/

theorem Value.eq_string_of_toString? {v : Value} {name : String} (h : v.toString? = some name) :
    v = .string name := by
  cases v <;> cases h
  rfl

/-- The selector that stands behind the name of an aggregation. -/
def Selector.parseRest : List Value → Except CompileError Selector
  | [single] => Selector.parse single
  | args => .pipeline <$> Pipeline.parse args

/-- A pipeline of several elements is a call or a chain; what stands behind the first element is a
selector of its own. -/
theorem Pipeline.parse_cons (first : Value) {rest : List Value} (h : rest ≠ []) :
    Pipeline.parse (first :: rest) =
      match first.toString? with
      | some name => .ok (.call name rest)
      | none => do
        let head ← Selector.parse first
        let tail ← Selector.parseRest rest
        return .chain head tail := by
  rcases rest with _ | ⟨second, _ | ⟨third, rest⟩⟩
  · exact absurd rfl h
  · unfold Pipeline.parse
    cases first.toString? <;> rfl
  · unfold Pipeline.parse
    rw [Selector.parseRest]
    · cases first.toString? with
      | some name => rfl
      | none =>
        cases Selector.parse first with
        | error e => rfl
        | ok head => cases Pipeline.parse (second :: third :: rest) <;> rfl
    · simp

theorem Selector.parseRest_of_length_ne_one {rest : List Value} (h : rest.length ≠ 1) :
    Selector.parseRest rest = .pipeline <$> Pipeline.parse rest := by
  rw [Selector.parseRest]
  rintro single rfl
  exact h rfl

/-! ## Object selectors -/

theorem filterKey_ne : filterKey ≠ selectAllKey := by decide

/-- What one key of a written object selector stands for. -/
inductive WrittenPart where
  | field (key : String) (s : Selector)
  | remaining (s : Selector)
  | filter (p : Predicate)

namespace WrittenPart

def key : WrittenPart → String
  | field key _ => key
  | remaining _ => selectAllKey
  | filter _ => filterKey

/-- The part that a key and its value write. -/
def parse (key : String) (v : Value) : Except CompileError WrittenPart :=
  if key = selectAllKey then remaining <$> located key (Selector.parse v)
  else if key = filterKey then filter <$> located key (Predicate.parse v)
  else field key <$> located key (Selector.parse v)

theorem key_of_parse {key : String} {v : Value} {part : WrittenPart} (h : parse key v = .ok part) :
    part.key = key := by
  unfold parse at h
  split at h
  case isTrue hall =>
    obtain ⟨s, -, rfl⟩ := map_eq_ok.1 h
    exact hall.symm
  case isFalse =>
    split at h
    case isTrue hfilter =>
      obtain ⟨p, -, rfl⟩ := map_eq_ok.1 h
      exact hfilter.symm
    case isFalse =>
      obtain ⟨s, -, rfl⟩ := map_eq_ok.1 h
      rfl

/-- What is written under a reserved key is what that key holds, and what is written under any other
is a selector for a field. -/
theorem parse_eq_ok {key : String} {v : Value} {part : WrittenPart} :
    parse key v = .ok part ↔ part.key = key ∧
      match part with
      | field key s => key ≠ selectAllKey ∧ key ≠ filterKey ∧ Selector.parse v = .ok s
      | remaining s => Selector.parse v = .ok s
      | filter p => Predicate.parse v = .ok p := by
  unfold parse
  split
  case isTrue hall =>
    subst hall
    cases part with
    | field key s => exact iff_of_false (by simp [map_eq_ok]) fun h => h.2.1 h.1
    | remaining s => simp [map_eq_ok, located_eq_ok, WrittenPart.key]
    | filter p => exact iff_of_false (by simp [map_eq_ok]) fun h => absurd h.1 filterKey_ne
  case isFalse hall =>
    split
    case isTrue hfilter =>
      subst hfilter
      cases part with
      | field key s => exact iff_of_false (by simp [map_eq_ok]) fun h => h.2.2.1 h.1
      | remaining s => exact iff_of_false (by simp [map_eq_ok]) fun h => filterKey_ne h.1.symm
      | filter p => simp [map_eq_ok, located_eq_ok, WrittenPart.key]
    case isFalse hfilter =>
      cases part with
      | field key' s =>
        simp only [map_eq_ok, located_eq_ok, WrittenPart.key, field.injEq]
        constructor
        · rintro ⟨s, hs, rfl, rfl⟩
          exact ⟨rfl, hall, hfilter, hs⟩
        · rintro ⟨rfl, -, -, hs⟩
          exact ⟨s, hs, rfl, rfl⟩
      | remaining s => exact iff_of_false (by simp [map_eq_ok]) fun h => hall h.1.symm
      | filter p => exact iff_of_false (by simp [map_eq_ok]) fun h => hfilter h.1.symm

end WrittenPart

namespace FieldSelector

/-- The field selector with another part in front. -/
def addPart (f : FieldSelector) : WrittenPart → FieldSelector
  | .field key s => .mk ((key, s) :: f.fields) f.remaining f.filter
  | .remaining s => .mk f.fields (some s) f.filter
  | .filter p => .mk f.fields f.remaining (some p)

theorem parse_cons (key : String) (v : Value) (written : List (String × Value)) :
    parse ((key, v) :: written) = (do
      let part ← WrittenPart.parse key v
      let f ← parse written
      return f.addPart part) := by
  rw [parse, WrittenPart.parse]
  split
  · cases located key (Selector.parse v) <;> rfl
  · split
    · cases located key (Predicate.parse v) <;> rfl
    · cases located key (Selector.parse v) <;> rfl

theorem parse_cons_eq_ok {key : String} {v : Value} {written : List (String × Value)}
    {f : FieldSelector} : parse ((key, v) :: written) = .ok f ↔
      ∃ part, WrittenPart.parse key v = .ok part ∧
        ∃ g, parse written = .ok g ∧ g.addPart part = f := by
  simp only [parse_cons, bind_eq_ok, pure, Except.pure, Except.ok.injEq]

/-- Whether a part is one of those that a field selector holds. -/
def HasPart (f : FieldSelector) : WrittenPart → Prop
  | .field key s => (key, s) ∈ f.fields
  | .remaining s => f.remaining = some s
  | .filter p => f.filter = some p

theorem eq_or_hasPart_of_addPart {f : FieldSelector} {added part : WrittenPart}
    (h : (f.addPart added).HasPart part) : part = added ∨ f.HasPart part := by
  cases part with
  | field key s =>
    cases added with
    | field key' s' =>
      rcases List.mem_cons.1 h with heq | h
      · cases heq
        exact .inl rfl
      · exact .inr h
    | remaining s' => exact .inr h
    | filter p' => exact .inr h
  | remaining s =>
    cases added with
    | remaining s' =>
      cases h
      exact .inl rfl
    | field key' s' => exact .inr h
    | filter p' => exact .inr h
  | filter p =>
    cases added with
    | filter p' =>
      cases h
      exact .inl rfl
    | field key' s' => exact .inr h
    | remaining s' => exact .inr h

/-- Every part of a parsed object selector is written under its key. -/
theorem written_of_hasPart {written : List (String × Value)} {f : FieldSelector}
    (h : parse written = .ok f) (part : WrittenPart) (hpart : f.HasPart part) :
    ∃ v, (part.key, v) ∈ written ∧ WrittenPart.parse part.key v = .ok part := by
  induction written generalizing f with
  | nil =>
    cases h
    cases part with
    | field key s => exact absurd hpart List.not_mem_nil
    | remaining s => cases hpart
    | filter p => cases hpart
  | cons first written ih =>
    obtain ⟨key, v⟩ := first
    obtain ⟨added, hadded, g, hg, rfl⟩ := parse_cons_eq_ok.1 h
    rcases eq_or_hasPart_of_addPart hpart with rfl | hpart
    · have hkey := WrittenPart.key_of_parse hadded
      exact ⟨v, hkey ▸ List.mem_cons_self, hkey ▸ hadded⟩
    · obtain ⟨w, hmem, hw⟩ := ih hg hpart
      exact ⟨w, List.mem_cons_of_mem _ hmem, hw⟩

end FieldSelector

/-! ## Weights of parts -/

theorem weight_le_itemsWeight {v : Value} {items : List Value} (h : v ∈ items) :
    2 + v.weight ≤ itemsWeight items := by
  induction items with
  | nil => cases h
  | cons w items ih =>
    simp only [itemsWeight]
    rcases List.mem_cons.1 h with rfl | h
    · omega
    · have := ih h
      omega

theorem weight_lt_fieldsWeight {field : String × Value} {fields : List (String × Value)}
    (h : field ∈ fields) : field.2.weight < fieldsWeight fields := by
  induction fields with
  | nil => cases h
  | cons first fields ih =>
    simp only [fieldsWeight]
    rcases List.mem_cons.1 h with rfl | h
    · omega
    · have := ih h
      omega

theorem weight_lt_entriesWeight {entry : String × Selector} {entries : List (String × Selector)}
    (h : entry ∈ entries) : entry.2.weight < entriesWeight entries := by
  induction entries with
  | nil => cases h
  | cons first entries ih =>
    simp only [entriesWeight]
    rcases List.mem_cons.1 h with rfl | h
    · omega
    · have := ih h
      omega

theorem Selector.weight_le_of_parseRest {args : List Value} {s : Selector}
    (h : Selector.parseRest args = .ok s) : s.weight ≤ 2 + itemsWeight args := by
  unfold parseRest at h
  split at h
  · have hs := Selector.weight_le_of_parse _ h
    simp only [itemsWeight]
    omega
  · obtain ⟨p, hp, rfl⟩ := map_eq_ok.1 h
    have hp := Pipeline.weight_le_of_parse _ hp
    simp only [Selector.weight]
    omega

end Reshape
