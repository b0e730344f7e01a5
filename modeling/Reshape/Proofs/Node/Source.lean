import Reshape.Node.Source
import Mathlib.Algebra.Group.Nat.Defs
import Mathlib.Data.List.Nodup

/-!
# The keys of a record's entries

Keys of one kind see the entries of a record under keys of that kind, no key twice. Positions are
64-bit integers, the places of a list are natural numbers; what the one says of the other is at the
beginning.
-/

namespace Reshape

/-- A record whose entries can be told apart by their keys: no name twice in an object, no more
elements in an array than there are positions. -/
def Value.DistinctKeys : Value → Prop
  | .object fields => (fields.map (·.1)).Nodup
  | .array items => items.length < 2 ^ 64
  | _ => True

/-! ## Places and positions

A place in a list has a position from zero up, the place itself as a 64-bit integer. -/

theorem toInt_nonneg {n : Int64} : 0 ≤ n ↔ 0 ≤ n.toInt := Int64.le_iff_toInt_le

theorem ofNat_toNat {n : Int64} (h : 0 ≤ n) : Int64.ofNat n.toInt.toNat = n := by
  have hnonneg := toInt_nonneg.1 h
  have hbound : n.toInt.toNat < 2 ^ 63 := by
    have := n.toInt_lt
    omega
  rw [← Int64.toInt_inj, Int64.toInt_ofNat_of_lt hbound, Int.toNat_of_nonneg hnonneg]

theorem ofNat_eq_iff {n : Int64} {i : Nat} (hi : i < 2 ^ 63) :
    Int64.ofNat i = n ↔ n.toInt = i := by
  rw [← Int64.toInt_inj, Int64.toInt_ofNat_of_lt hi, eq_comm]

/-- No place has a position from the end. -/
theorem ofNat_ne_of_neg {n : Int64} {i : Nat} (hn : n < 0) (hi : i < 2 ^ 63) :
    Int64.ofNat i ≠ n := by
  intro h
  have hplace := (ofNat_eq_iff hi).1 h
  rw [Int64.lt_iff_toInt_lt, hplace] at hn
  exact Int.not_lt.2 (Int.natCast_nonneg i) hn

/-- No two places have one position, as far as there are 64-bit integers. -/
theorem ofNat_injective {i j : Nat} (hi : i < 2 ^ 64) (hj : j < 2 ^ 64)
    (h : Int64.ofNat i = Int64.ofNat j) : i = j := by
  have hbits : i % 2 ^ 64 = j % 2 ^ 64 := by
    simpa using congrArg (fun n => n.toUInt64.toNat) h
  rwa [Nat.mod_eq_of_lt hi, Nat.mod_eq_of_lt hj] at hbits

/-! ## Entries -/

namespace KeyKind

theorem kind_of_mem_entries {kind : KeyKind} {input : Value} {p : Key × Value}
    (h : p ∈ kind.entries input) : p.1.kind = kind := by
  cases kind with
  | name =>
    cases input with
    | object fields =>
      obtain ⟨entry, -, rfl⟩ := List.mem_map.1 h
      rfl
    | _ => cases h
  | position =>
    cases input with
    | array items =>
      obtain ⟨i, hi, rfl⟩ := List.mem_mapIdx.1 h
      rfl
    | object fields =>
      obtain rfl := List.mem_singleton.1 h
      rfl
    | _ => cases h

theorem nodup_entries {kind : KeyKind} {input : Value} (h : input.DistinctKeys) :
    ((kind.entries input).map (·.1)).Nodup := by
  cases kind with
  | name =>
    cases input with
    | object fields =>
      have hkeys : (KeyKind.name.entries (.object fields)).map (·.1) =
          (fields.map (·.1)).map Key.name := by
        simp [entries, Function.comp_def]
      rw [hkeys]
      exact h.map fun _ _ heq => Key.name.inj heq
    | _ => exact List.nodup_nil
  | position =>
    cases input with
    | array items =>
      have hkeys : (KeyKind.position.entries (.array items)).map (·.1) =
          (List.range items.length).map fun i => Key.position (Int64.ofNat i) := by
        apply List.ext_getElem <;> simp [entries]
      rw [hkeys]
      refine (List.nodup_map_iff_inj_on List.nodup_range).2 ?_
      intro i hi j hj heq
      have hi := Nat.lt_trans (List.mem_range.1 hi) h
      have hj := Nat.lt_trans (List.mem_range.1 hj) h
      exact ofNat_injective hi hj (Key.position.inj heq)
    | object fields => exact List.nodup_singleton _
    | _ => exact List.nodup_nil

end KeyKind

end Reshape
