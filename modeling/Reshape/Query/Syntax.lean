import Reshape.Value.Key

/-!
# The syntax of queries

A query is written as a JSON value whose shape says what to do. This module holds the forms such a
value can take once its shape is understood.

A `Selector` describes an output:

| written | meaning |
|---|---|
| `false`, `null` | leave the field out |
| `true` | copy the field of the same name |
| `3`, `-1` | copy it and order by it: priority 3 ascending, priority 1 descending |
| `"sum"` | aggregate it, group by it, or apply a function to it |
| `[…]` | a `Pipeline`: read, replace or transform the value |
| `{…}` | a `FieldSelector`: one selector for each field of the output |

A `Predicate` is a test: a terminal value is equality, an object a conjunction, an array a
disjunction.
-/

namespace Reshape

/-- A test of a value. -/
inductive Predicate where
  | equals (expected : Value)
  /-- Every entry holds. A key is an operator or says which part of the value its test looks at. -/
  | all (entries : List (String × Predicate))
  /-- Some alternative holds. -/
  | any (alternatives : List Predicate)
deriving Inhabited

mutual

/-- A description of an output. -/
inductive Selector where
  | exclude
  | copy
  | sort (priority : Int64)
  | named (name : String)
  | pipeline (p : Pipeline)
  | fields (f : FieldSelector)

/-- A transformation of the value being selected. -/
inductive Pipeline where
  /-- `[]`: the field of the output's name. -/
  | identity
  /-- `["name"]`, `[0]`, `[-1]`: the field or element of a key. -/
  | access (key : Key)
  /-- `[[value]]`: a value that does not depend on the input. -/
  | constant (value : Value)
  /-- `[{…}]`: a field selector applied to the value. -/
  | nested (f : FieldSelector)
  /-- `["name", argument, …]`. Arguments stay as written, because the meaning of the name decides
  whether they are arguments of a function or the rest of a pipeline to aggregate. -/
  | call (name : String) (args : List Value)
  /-- `[head, …]`: what `head` selects, selected from by `tail`. -/
  | chain (head tail : Selector)

/-- A selector for each field of an output. -/
inductive FieldSelector where
  /-- The fields in written order, the selector of the key `*` for all the others, and the predicate
  of the key `?` that records have to pass. -/
  | mk (fields : List (String × Selector)) (remaining : Option Selector)
    (filter : Option Predicate)

end

instance : Inhabited Selector := ⟨.exclude⟩

/-- The key whose selector applies to every field not named. -/
def selectAllKey : String := "*"

/-- The key whose predicate records have to pass. -/
def filterKey : String := "?"

namespace FieldSelector

/-- The fields in written order. -/
def fields : FieldSelector → List (String × Selector)
  | .mk fields _ _ => fields

/-- The selector of the key `*`. -/
def remaining : FieldSelector → Option Selector
  | .mk _ remaining _ => remaining

/-- The predicate of the key `?`. -/
def filter : FieldSelector → Option Predicate
  | .mk _ _ filter => filter

end FieldSelector

end Reshape
