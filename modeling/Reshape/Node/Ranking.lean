import Reshape.Node.Row
import Reshape.Sorting

/-!
# Ordering rows

Sort directives give the fields that rows are ordered by. The absolute value of a directive is its
priority, the least compared first and equal ones in field order; a negative directive reverses its
comparison. Rows that tie on every field keep their order.
-/

namespace Reshape

/-- A field that rows are ordered by. -/
structure SortKey where
  /-- The index of the field. -/
  field : Nat
  priority : Nat
  descending : Bool
deriving DecidableEq

/-- The sort keys of the fields with directives, the first to compare in front. -/
def SortKey.ofDirectives (directives : List (Option Int64)) : List SortKey :=
  stableSort (fun a b => compare a.priority b.priority) <|
    directives.zipIdx.filterMap fun (directive, field) =>
      directive.map fun n => ⟨field, n.toInt.natAbs, n < 0⟩

/-- The comparison of two rows on one field. -/
def SortKey.compareRows (key : SortKey) (a b : Row) : Ordering :=
  let o := compareForSort (a.value key.field) (b.value key.field)
  if key.descending then o.swap else o

/-- The comparison of two rows on several fields, the first that tells them apart deciding. -/
def compareRows : List SortKey → Row → Row → Ordering
  | [], _, _ => .eq
  | key :: keys, a, b => (key.compareRows a b).then (compareRows keys a b)

/-- Rows in the order of some sort keys. -/
def sortRows (keys : List SortKey) (rows : List Row) : List Row :=
  stableSort (compareRows keys) rows

end Reshape
