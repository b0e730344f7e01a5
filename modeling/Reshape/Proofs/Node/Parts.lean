import Reshape.Node.Source
import Reshape.Proofs.Named
import Mathlib.Algebra.Group.Nat.Defs

/-!
# Records as lists of parts

A record is a list of parts here, each with its place, the text of its key and its value. A key of a
query names a part by its text or by its place, from either end, and this one notion is behind both
ways a node uses its source keys: a key reads the part that it names (`Key.read_eq`), and it
resolves to the key of that part (`Key.resolve_eq_key_iff`). Resolving is 64-bit arithmetic, so it
asks for a record whose width is within it.
-/

namespace Reshape

/-- A part of a record. -/
structure Part where
  place : Nat
  /-- The text of its key. -/
  text : String
  value : Value

/-- The parts of a record, as keys of one kind see them. -/
def KeyKind.parts : KeyKind → Value → List Part
  | .name, .object fields => fields.mapIdx fun i entry => ⟨i, entry.1, entry.2⟩
  | .position, .array items => items.mapIdx fun i v => ⟨i, toString i, v⟩
  | .position, .object fields => [⟨0, "0", .object fields⟩]
  | _, _ => []

/-- Whether a key names a part of a record with `width` elements. -/
def Key.names (k : Key) (width : Nat) (part : Part) : Bool :=
  match k with
  | .name text => part.text == text
  | .position n => Value.place? width n == some part.place

/-- The key under which a part is an entry. -/
def Part.key (part : Part) : KeyKind → Key
  | .name => .name part.text
  | .position => .position (Int64.ofNat part.place)

variable {kind : KeyKind} {input : Value} {part : Part}

theorem KeyKind.entries_eq_map_parts :
    kind.entries input = (kind.parts input).map fun part => (part.key kind, part.value) := by
  cases kind with
  | name =>
    cases input with
    | object fields => apply List.ext_getElem <;> simp [entries, parts, Part.key]
    | _ => rfl
  | position =>
    cases input with
    | array items => apply List.ext_getElem <;> simp [entries, parts, Part.key]
    | _ => rfl

/-- By position, a part has its place within the record, and its text is that of the place. -/
theorem KeyKind.of_mem_parts (h : part ∈ KeyKind.position.parts input) :
    part.place < input.width ∧ part.text = toString part.place := by
  cases input with
  | array items =>
    obtain ⟨i, hi, rfl⟩ := List.mem_mapIdx.1 h
    exact ⟨hi, rfl⟩
  | object fields =>
    obtain rfl := List.mem_singleton.1 h
    exact ⟨Nat.one_pos, show "0" = toString 0 by decide⟩
  | _ => cases h

theorem Part.text_key (h : part ∈ kind.parts input) (hwidth : input.width < 2 ^ 63) :
    (part.key kind).text = part.text := by
  cases kind with
  | name => rfl
  | position =>
    obtain ⟨hplace, htext⟩ := KeyKind.of_mem_parts h
    rw [key, Key.text, Int64.toInt_ofNat_of_lt (Nat.lt_trans hplace hwidth), htext]
    rfl

/-- Counted from the front, a position is that of the place that it names. -/
theorem resolve_position_eq_iff {n : Int64} {place : Nat} (hplace : place < input.width)
    (hwidth : input.width < 2 ^ 64) :
    (Key.position n).resolve input = .position (Int64.ofNat place) ↔
      Value.place? input.width n = some place := by
  have hfront : (Int64.ofNat place).toInt = (place : Int).bmod (2 ^ 64) := Int64.toInt_ofNat'
  have hneg : n < 0 ↔ n.toInt < 0 := Int64.lt_iff_toInt_lt
  have hlow := n.le_toInt
  have hhigh := n.toInt_lt
  rw [Int.bmod_def] at hfront
  rw [Key.resolve, Value.place?]
  by_cases hback : n < 0 ∧ 0 ≤ (input.width : Int) + n.toInt
  · have hback' : n.toInt < 0 ∧ 0 ≤ (input.width : Int) + n.toInt := ⟨hneg.1 hback.1, hback.2⟩
    have hsum : (Int64.ofInt (input.width + n.toInt)).toInt =
        (input.width + n.toInt).bmod (2 ^ 64) := Int64.toInt_ofInt
    rw [Int.bmod_def] at hsum
    rw [if_pos hback, if_neg (by omega), if_pos (by omega), Key.position.injEq, ← Int64.toInt_inj,
      Option.some_inj]
    omega
  · rw [hneg] at hback
    rw [if_neg (by rwa [hneg]), Key.position.injEq, ← Int64.toInt_inj]
    by_cases hnonneg : 0 ≤ n.toInt
    · rw [if_pos hnonneg, Option.some_inj]
      omega
    · rw [if_neg hnonneg, if_neg (by omega)]
      refine iff_of_false (by omega) ?_
      simp

/-- A source key resolves to the key of the part that it names. -/
theorem Key.resolve_eq_key_iff {k : Key} (hkind : k.kind = kind) (h : part ∈ kind.parts input)
    (hwidth : input.width < 2 ^ 64) :
    k.resolve input = part.key kind ↔ k.names input.width part = true := by
  subst hkind
  cases k with
  | name text => rw [names, beq_iff_eq, resolve, kind, Part.key, name.injEq, eq_comm]
  | position n =>
    rw [names, beq_iff_eq]
    exact resolve_position_eq_iff (KeyKind.of_mem_parts h).1 hwidth

/-- The first of some indexed values to satisfy what only one index does. -/
theorem find?_mapIdx {α β : Type} {f : Nat → α → β} {p : β → Bool} {place : Nat} {items : List α}
    (h : ∀ i a, p (f i a) = (i == place)) :
    (items.mapIdx f).find? p = items[place]?.map (f place) := by
  induction items generalizing f place with
  | nil => rfl
  | cons a items ih =>
    rw [List.mapIdx_cons]
    cases place with
    | zero => rw [List.find?_cons_of_pos (h 0 a)]; rfl
    | succ place =>
      have hrest : ∀ i a, p (f (i + 1) a) = (i == place) := fun i a => by
        rw [h, Bool.eq_iff_iff]
        simp
      rw [List.find?_cons_of_neg (by simp [h]), ih hrest, List.getElem?_cons_succ]

theorem find?_mapIdx_lookup {f : Nat → String × Value → Part} {text : String}
    {fields : List (String × Value)} (htext : ∀ i entry, (f i entry).text = entry.1)
    (hvalue : ∀ i entry, (f i entry).value = entry.2) :
    ((fields.mapIdx f).find? fun part => part.text == text).map (·.value) =
      fields.lookup text := by
  have hfields : (fields.mapIdx f).map (fun part => (part.text, part.value)) = fields := by
    apply List.ext_getElem <;> simp [htext, hvalue]
  rw [← lookup_map, hfields]

theorem place?_one_eq_iff {n : Int64} : Value.place? 1 n = some 0 ↔ n = 0 ∨ n = -1 := by
  have hzero : n = 0 ↔ n.toInt = 0 := Int64.toInt_inj.symm
  have hlast : n = -1 ↔ n.toInt = -1 := Int64.toInt_inj.symm
  rw [Value.place?, hzero, hlast]
  by_cases hnonneg : 0 ≤ n.toInt
  · rw [if_pos hnonneg, Option.some_inj]
    omega
  · rw [if_neg hnonneg]
    by_cases hfront : n.toInt.natAbs ≤ 1
    · rw [if_pos hfront, Option.some_inj]
      omega
    · rw [if_neg hfront]
      simp
      omega

/-- The element of a list at a position is the value of the part that the position names. -/
theorem at?_eq_find? (items : List Value) (n : Int64) :
    (Value.array items).at? n = ((KeyKind.position.parts (.array items)).find?
      ((Key.position n).names items.length)).map (·.value) := by
  rw [Value.at?, KeyKind.parts]
  cases hplace : Value.place? items.length n with
  | none =>
    have hnone : ∀ part : Part, (Key.position n).names items.length part = false := by
      intro part
      rw [Key.names, hplace]
      rfl
    simp [List.find?_eq_none.2 fun part _ => Bool.eq_false_iff.1 (hnone part)]
  | some place =>
    have hnames : ∀ i v, (Key.position n).names items.length ⟨i, toString i, v⟩ =
        (i == place) := by
      intro i v
      rw [Key.names, hplace, Bool.eq_iff_iff, beq_iff_eq, beq_iff_eq, Option.some_inj, eq_comm]
    rw [find?_mapIdx hnames, Option.map_map, Option.bind_some]
    simp [Function.comp_def]

/-- A key reads the value of the part that it names. -/
theorem Key.read_eq {k : Key} (hkind : k.kind = kind) :
    k.read input = ((kind.parts input).find? (k.names input.width)).map (·.value) := by
  subst hkind
  cases k with
  | name text =>
    cases input with
    | object fields => exact (find?_mapIdx_lookup (fun _ _ => rfl) fun _ _ => rfl).symm
    | _ => rfl
  | position n =>
    cases input with
    | array items => exact at?_eq_find? items n
    | object fields =>
      have hnames : (Key.position n).names 1 ⟨0, "0", .object fields⟩ =
          decide (n = 0 ∨ n = -1) := by
        rw [names, Bool.eq_iff_iff, beq_iff_eq, decide_eq_true_iff, place?_one_eq_iff]
      rw [kind, KeyKind.parts, Value.width, List.find?_singleton, hnames, read]
      by_cases h : n = 0 ∨ n = -1 <;> simp [h]
    | _ => rfl

end Reshape
