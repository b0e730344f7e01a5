import Reshape.Json.Printer
import Reshape.Node.Row
import Reshape.Sorting

/-!
# Grouping rows

Rows with the same key form a group, and each group becomes one row. The key holds the canonical
text of every field that is not folded, absent fields told apart from all texts, and then the
leftovers sorted by the text of their keys. The row of a group is its first row with every folded
field replaced by the fold of the values that the group's rows have there, in order of arrival;
absent values are not fed. Groups come in the order in which their first rows came.

All groups are made in one pass over the rows, each of which opens a group or joins one.
-/

namespace Reshape

/-- What the rows of one group have in common. -/
abbrev GroupKey := List (Option String)

/-- The fold of each field; a field without one is part of the key. -/
abbrev Folds := List (Option Fold)

/-- The fold that a directive asks for. -/
def Aggregation.fold? : Aggregation → Option Fold
  | .group => none
  | .fold f => some f

/-- Texts of a leftover and its key, in lexicographic order. -/
def compareLeftovers (a b : String × String) : Ordering :=
  (compare a.1 b.1).then (compare a.2 b.2)

/-- The part of the key that the leftovers contribute. -/
def restKey (rest : List (Key × Value)) : GroupKey :=
  let texts := rest.map fun (key, v) => (key.text, v.canonicalText)
  (stableSort compareLeftovers texts).flatMap fun (key, text) =>
    [some (Value.string key).canonicalText, some text]

/-- The key of a row. -/
def groupKey (folds : Folds) (row : Row) : GroupKey :=
  let fields := (folds.zip row.values).filterMap fun (fold, value) =>
    if fold.isNone then some (value.map Value.canonicalText) else none
  fields ++ restKey row.rest

/-! ## Groups -/

/-- A group while its rows arrive. -/
structure RowGroup where
  /-- The first row with the folded fields left empty. -/
  template : Row
  /-- For each field how far its fold has come, if it has one. -/
  states : List (Option Accumulator)

namespace RowGroup

/-- The group that a row opens. The row itself is still to be fed. -/
def opened (folds : Folds) (first : Row) : RowGroup :=
  { template :=
      { values := folds.zipIdx.map fun (fold, field) =>
          if fold.isNone then first.value field else none
        rest := first.rest }
    states := folds.map (·.map Fold.start) }

/-- Feeds the values of a row to the folds of their fields. -/
def feed (g : RowGroup) (row : Row) : RowGroup :=
  { g with
    states := g.states.zipIdx.map fun (state, field) =>
      match state, row.value field with
      | some state, some v => some (state.add v)
      | state, _ => state }

/-- The row that the group has become. -/
def row (g : RowGroup) : Row :=
  { g.template with
    values := List.zipWith (fun value state => (state.map Accumulator.get).or value)
      g.template.values g.states }

end RowGroup

/-- Groups under their keys, in the order in which they were opened. -/
abbrev Groups := List (GroupKey × RowGroup)

/-- Feeds a row to the group of its key, which is opened behind all others if it is not there. -/
def Groups.add (folds : Folds) (key : GroupKey) (row : Row) : Groups → Groups
  | [] => [(key, (RowGroup.opened folds row).feed row)]
  | (k, g) :: groups =>
    if k == key then (k, g.feed row) :: groups else (k, g) :: Groups.add folds key row groups

/-- One row for each group. -/
def foldRows (folds : Folds) (rows : List Row) : List Row :=
  let groups := rows.foldl (fun groups row => Groups.add folds (groupKey folds row) row groups) []
  groups.map (·.2.row)

end Reshape
