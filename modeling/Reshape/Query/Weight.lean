import Reshape.Query.Parser

/-!
# Weights of queries

A measure of values and of queries under which parsing never gains: `Selector.parse` and
`Pipeline.parse` return a query no heavier than the value they read. Compiling a call parses the
arguments it holds, and the measure is what makes that recursion end.
-/

namespace Reshape

mutual

def Value.weight : Value → Nat
  | .array items => 2 + itemsWeight items
  | .object fields => 2 + fieldsWeight fields
  | _ => 1

/-- The weight of a list of values, two for each place. -/
def itemsWeight : List Value → Nat
  | [] => 0
  | v :: vs => 2 + v.weight + itemsWeight vs

def fieldsWeight : List (String × Value) → Nat
  | [] => 0
  | (_, v) :: fields => 1 + v.weight + fieldsWeight fields

end

mutual

def Selector.weight : Selector → Nat
  | .pipeline p => 1 + p.weight
  | .fields f => 1 + f.weight
  | _ => 1

def Pipeline.weight : Pipeline → Nat
  | .nested f => 1 + f.weight
  | .call _ args => 3 + itemsWeight args
  | .chain head tail => 1 + head.weight + tail.weight
  | _ => 1

def FieldSelector.weight : FieldSelector → Nat
  | .mk fields remaining _ => 1 + entriesWeight fields + remainingWeight remaining

def entriesWeight : List (String × Selector) → Nat
  | [] => 0
  | (_, s) :: entries => 1 + s.weight + entriesWeight entries

def remainingWeight : Option Selector → Nat
  | none => 0
  | some s => 1 + s.weight

end

theorem Value.weight_pos (v : Value) : 1 ≤ v.weight := by
  cases v <;> simp only [Value.weight] <;> omega

mutual

/-- A selector weighs at most what the value it was read from weighs. -/
theorem Selector.weight_le_of_parse (v : Value) :
    ∀ {s : Selector}, Selector.parse v = .ok s → s.weight ≤ v.weight := by
  intro s h
  match v with
  | .null => simp only [Selector.parse] at h; cases h; simp [Selector.weight, Value.weight]
  | .bool false => simp only [Selector.parse] at h; cases h; simp [Selector.weight, Value.weight]
  | .bool true => simp only [Selector.parse] at h; cases h; simp [Selector.weight, Value.weight]
  | .int n =>
    simp only [Selector.parse] at h
    split at h
    · exact absurd h refuse_ne_ok
    · cases h; simp [Selector.weight, Value.weight]
  | .float x => exact absurd h refuse_ne_ok
  | .string name => simp only [Selector.parse] at h; cases h; simp [Selector.weight, Value.weight]
  | .array elements =>
    simp only [Selector.parse] at h
    obtain ⟨p, hp, rfl⟩ := map_eq_ok.1 h
    have := Pipeline.weight_le_of_parse elements hp
    simp only [Selector.weight, Value.weight]
    omega
  | .object fields =>
    simp only [Selector.parse] at h
    obtain ⟨f, hf, rfl⟩ := map_eq_ok.1 h
    have := FieldSelector.weight_le_of_parse fields hf
    simp only [Selector.weight, Value.weight]
    omega

/-- A pipeline weighs at most one more than the elements it was read from. -/
theorem Pipeline.weight_le_of_parse (elements : List Value) :
    ∀ {p : Pipeline}, Pipeline.parse elements = .ok p → p.weight ≤ 1 + itemsWeight elements := by
  intro p h
  match elements with
  | [] => simp only [Pipeline.parse] at h; cases h; simp [Pipeline.weight]
  | [element] =>
    simp only [Pipeline.parse] at h
    have := Pipeline.weight_le_of_parseAccessor element h
    simp only [itemsWeight]
    omega
  | first :: second :: rest =>
    have hfirst := Value.weight_pos first
    simp only [Pipeline.parse] at h
    split at h
    · cases h
      simp only [Pipeline.weight, itemsWeight]
      omega
    · obtain ⟨head, hhead, h⟩ := bind_eq_ok.1 h
      obtain ⟨tail, htail, h⟩ := bind_eq_ok.1 h
      cases h
      have hhead := Selector.weight_le_of_parse first hhead
      have htail := Selector.weight_le_of_parse second htail
      simp only [Pipeline.weight, itemsWeight]
      omega
    · obtain ⟨head, hhead, h⟩ := bind_eq_ok.1 h
      obtain ⟨tail, htail, h⟩ := bind_eq_ok.1 h
      cases h
      have hhead := Selector.weight_le_of_parse first hhead
      have htail := Pipeline.weight_le_of_parse _ htail
      simp only [Pipeline.weight, Selector.weight, itemsWeight] at htail ⊢
      omega

/-- The same for the single element of an accessor. -/
theorem Pipeline.weight_le_of_parseAccessor (v : Value) :
    ∀ {p : Pipeline}, Pipeline.parseAccessor v = .ok p → p.weight ≤ 1 + v.weight := by
  intro p h
  match v with
  | .string name => simp only [Pipeline.parseAccessor] at h; cases h; simp [Pipeline.weight]
  | .int n => simp only [Pipeline.parseAccessor] at h; cases h; simp [Pipeline.weight]
  | .array [] => exact absurd h refuse_ne_ok
  | .array [c] => simp only [Pipeline.parseAccessor] at h; cases h; simp [Pipeline.weight]
  | .array (_ :: _ :: _) => exact absurd h refuse_ne_ok
  | .object fields =>
    simp only [Pipeline.parseAccessor] at h
    obtain ⟨f, hf, rfl⟩ := map_eq_ok.1 h
    have := FieldSelector.weight_le_of_parse fields hf
    simp only [Pipeline.weight, Value.weight]
    omega
  | .null => exact absurd h refuse_ne_ok
  | .bool _ => exact absurd h refuse_ne_ok
  | .float _ => exact absurd h refuse_ne_ok

/-- A field selector weighs at most one more than the fields it was read from. -/
theorem FieldSelector.weight_le_of_parse (fields : List (String × Value)) :
    ∀ {f : FieldSelector}, FieldSelector.parse fields = .ok f →
      f.weight ≤ 1 + fieldsWeight fields := by
  intro f h
  match fields with
  | [] =>
    simp only [FieldSelector.parse] at h
    cases h
    simp [FieldSelector.weight, entriesWeight, remainingWeight]
  | (key, v) :: fields =>
    have ih := @FieldSelector.weight_le_of_parse fields
    simp only [FieldSelector.parse] at h
    split at h
    · obtain ⟨s, hs, h⟩ := bind_eq_ok.1 h
      obtain ⟨g, hg, h⟩ := bind_eq_ok.1 h
      cases h
      have hs := Selector.weight_le_of_parse v (located_eq_ok.1 hs)
      have hg := ih hg
      cases g
      simp only [FieldSelector.weight, FieldSelector.fields, remainingWeight, fieldsWeight] at hg ⊢
      omega
    · split at h
      · obtain ⟨s, hs, h⟩ := bind_eq_ok.1 h
        obtain ⟨g, hg, h⟩ := bind_eq_ok.1 h
        cases h
        have hg := ih hg
        cases g
        simp only [FieldSelector.weight, FieldSelector.fields, FieldSelector.remaining,
          fieldsWeight] at hg ⊢
        omega
      · obtain ⟨s, hs, h⟩ := bind_eq_ok.1 h
        obtain ⟨g, hg, h⟩ := bind_eq_ok.1 h
        cases h
        have hs := Selector.weight_le_of_parse v (located_eq_ok.1 hs)
        have hg := ih hg
        cases g
        simp only [FieldSelector.weight, FieldSelector.fields, FieldSelector.remaining,
          entriesWeight, fieldsWeight] at hg ⊢
        omega

end

end Reshape
