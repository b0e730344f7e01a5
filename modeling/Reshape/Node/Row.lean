import Reshape.Value.Key
import Reshape.Vocabulary.Aggregation

/-!
# Records and what a node does to them

A node of a query turns records into outputs. On the way a record is a `Row`: one value for each
field of the node, absent values included, and the leftovers that no field reads, under the keys
they came from.
-/

namespace Reshape

/-- A transformation of a value that may be absent before and after. -/
abbrev Mapper := Option Value → Option Value

/-- One record on its way from its source to an output. -/
structure Row where
  /-- The values of the fields, in field order. -/
  values : List (Option Value)
  /-- The leftovers, in source order. -/
  rest : List (Key × Value)

/-- The value of the field with an index; absent when the row has no such field. -/
def Row.value (row : Row) (field : Nat) : Option Value := (row.values[field]?).join

/-- Whether keys are names or positions. -/
inductive KeyKind where
  | name
  | position
deriving DecidableEq, Inhabited

def Key.kind : Key → KeyKind
  | .name _ => .name
  | .position _ => .position

/-- How a node reads and writes: the kinds of its source and destination keys. Sources by name are
fields of objects, and a list of records is read record by record; sources by position are elements
of one array. -/
structure Strategy where
  source : KeyKind
  dest : KeyKind
deriving DecidableEq, Inhabited

/-- A field of a node. -/
structure Field where
  dest : Key
  source : Key
  mapper : Mapper
  aggregation : Option Aggregation
  sort : Option Int64

/-- An entry of a field selector once it is compiled. -/
inductive Entry where
  | field (f : Field)
  | exclusion (dest : Key)

/-- What happens to the parts of a record that no field reads. -/
inductive Remaining where
  /-- Nothing was said: they are copied only when the node has no field. -/
  | unspecified
  | dropped
  | copied (m : Mapper)

end Reshape
