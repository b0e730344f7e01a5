import Reshape.Node.Row
import Reshape.Sorting

/-!
# Writing rows

A row is written as an object or as an array.

An object holds the fields under their names, absent ones left out, and then the leftovers under
the text of their keys.

An array starts with a tuple: the fields with destinations from zero up, each at its place. A place
of the tuple that no field writes takes the leftover with that very position, if there is one, and
places still empty hold null. Behind the tuple come the fields with negative destinations, in the
order of the destinations and without the absent ones, and at last the leftovers not used yet.
-/

namespace Reshape

/-- Which field an array writes where. -/
structure Layout where
  /-- For each place of the tuple the index of its field, if a field writes it. -/
  tuple : List (Option Nat)
  /-- The indices of the fields behind the tuple. -/
  ordering : List Nat

/-- The number of places a tuple needs to hold a destination. -/
def Key.tupleLength : Key → Nat
  | .position n => if 0 ≤ n then n.toInt.toNat + 1 else 0
  | .name _ => 0

/-- The negative destinations with the indices of their fields. -/
def orderingSlots (dests : List Key) : List (Int × Nat) :=
  dests.zipIdx.filterMap fun (dest, field) =>
    match dest with
    | .position n => if n < 0 then some (n.toInt, field) else none
    | .name _ => none

/-- The layout for fields with the given destinations. -/
def Layout.of (dests : List Key) : Layout :=
  { tuple :=
      (List.range (dests.foldl (fun length dest => max length dest.tupleLength) 0)).map
        fun place => dests.idxOf? (Key.position (Int64.ofNat place))
    ordering :=
      (stableSort (fun a b => compare a.1 b.1) (orderingSlots dests)).map (·.2) }

/-- Whether a leftover takes an empty place of the tuple. -/
def Layout.fills (layout : Layout) : Key → Bool
  | .position n => 0 ≤ n && layout.tuple[n.toInt.toNat]? == some none
  | .name _ => false

/-- The array that a row is written as. -/
def Layout.write (layout : Layout) (row : Row) : List Value :=
  let tuple := layout.tuple.mapIdx fun place slot =>
    let value :=
      match slot with
      | some field => row.value field
      | none => row.rest.lookup (Key.position (Int64.ofNat place))
    value.getD .null
  let ordering := layout.ordering.filterMap row.value
  let rest := row.rest.filterMap fun (key, v) => if layout.fills key then none else some v
  tuple ++ ordering ++ rest

/-- The fields of the object that a row is written as. -/
def writeObject (dests : List Key) (row : Row) : List (String × Value) :=
  let fields := (dests.zip row.values).filterMap fun (dest, value) =>
    value.map fun v => (dest.text, v)
  fields ++ row.rest.map fun (key, v) => (key.text, v)

end Reshape
