import Reshape.Node.Grouping
import Reshape.Node.Layout
import Reshape.Node.Ranking
import Reshape.Node.Source

/-!
# Nodes

A `Node` is an object selector made ready to run: a table of fields with the two kinds of keys they
share, what to leave out, what to do with leftovers, and which records to keep. `Node.apply` runs
it.

A node that reads names treats an array as a list of records and answers with the list of their
outputs, at every depth; a node that reads positions treats an array as one record. A terminal
value is broadcast: every field gets it. An output object is given up when a field is absent, an
output array is not.

Grouping and sorting concern the records of one list. Elements that are themselves arrays take no
part in it; their outputs follow behind.
-/

namespace Reshape

/-- An object selector made ready to run. -/
structure Node where
  strategy : Strategy
  fields : List Field
  /-- Destinations that leftovers must not use. -/
  excluded : List Key
  /-- How leftovers are copied, if they are. -/
  remaining : Option Mapper
  filter : Option Test
  /-- Whether terminal values are handed through: a node that only filters. -/
  passthrough : Bool

namespace Node

/-- The destinations of the fields. -/
def dests (node : Node) : List Key := node.fields.map (·.dest)

/-- The fold of each field. -/
def folds (node : Node) : Folds := node.fields.map fun f => f.aggregation.bind Aggregation.fold?

/-- Whether records are grouped: some field carries an aggregation directive. -/
def isGrouped (node : Node) : Bool := node.fields.any (·.aggregation.isSome)

/-- What records are ordered by. -/
def sortKeys (node : Node) : List SortKey := SortKey.ofDirectives (node.fields.map (·.sort))

/-- Whether an array is a list of records. -/
def distributes (node : Node) : Bool := node.strategy.source == .name

/-- Whether a record passes the filter. -/
def passes (node : Node) (input : Value) : Bool :=
  match node.filter with
  | some test => test (some input)
  | none => true

/-- Whether a leftover with this key may not be copied, because a field writes there or the
destination is excluded. -/
def claims (node : Node) (key : Key) : Bool :=
  match node.strategy.dest with
  | .name => ((node.dests ++ node.excluded).map Key.text).contains key.text
  | .position =>
    match key with
    | .position n => node.excluded.contains key || (0 ≤ n && node.dests.contains key)
    | .name _ => false

/-- The entries of a record that no field reads and nothing claims, mapped. -/
def leftovers (node : Node) (mapper : Mapper) (input : Value) : List (Key × Value) :=
  let read := node.fields.map fun f => f.source.resolve input
  (node.strategy.source.entries input).filterMap fun (key, v) =>
    if read.contains key || node.claims key then none else (mapper (some v)).map (key, ·)

/-- The row of a terminal value: every field maps the value itself. -/
def broadcast (node : Node) (input : Value) : Row :=
  { values := node.fields.map fun f => (f.mapper (some input)).or (some .null)
    rest := [] }

/-- The row of a record; none when the output would be an object with a field absent. -/
def extract (node : Node) (input : Value) : Option Row :=
  if input.isTerminal then some (node.broadcast input)
  else
    let values := node.fields.map fun f => f.mapper (f.source.read input)
    if node.strategy.dest == .name && values.any Option.isNone then none
    else
      let rest :=
        match node.remaining with
        | some mapper => node.leftovers mapper input
        | none => []
      some ⟨values, rest⟩

/-- The output for a row. -/
def write (node : Node) (row : Row) : Value :=
  match node.strategy.dest with
  | .name => .object (writeObject node.dests row)
  | .position => .array ((Layout.of node.dests).write row)

/-- The rows of a list, grouped if the node groups. -/
def groupRows (node : Node) (rows : List Row) : List Row :=
  if node.isGrouped then foldRows node.folds rows else rows

/-- The output for one record. -/
def applyRecord (node : Node) (input : Value) : Option Value :=
  if !node.passes input then none
  else if node.passthrough && input.isTerminal then some input
  else do
    let row ← node.extract input
    let row ← (node.groupRows [row]).head?
    return node.write row

/-- The outputs for the records of a list taken together: grouped, then sorted. Elements that are
arrays are passed over. -/
def applyTogether (node : Node) (items : List Value) : List Value :=
  let records := items.filter fun v => !v.isArray && node.passes v
  (sortRows node.sortKeys (node.groupRows (records.filterMap node.extract))).map node.write

/-- Whether the records of a list are taken one by one. -/
def isPlain (node : Node) : Bool := !node.isGrouped && node.sortKeys.isEmpty

mutual

/-- The output for a value. -/
def apply (node : Node) : Value → Option Value
  | .array items =>
    if node.distributes then
      some (.array (if node.isPlain then node.applyEach items
        else node.applyTogether items ++ node.applyArrays items))
    else node.applyRecord (.array items)
  | v => node.applyRecord v

/-- The outputs for the elements of a list, one by one. -/
def applyEach (node : Node) : List Value → List Value
  | [] => []
  | v :: vs => (node.apply v).toList ++ node.applyEach vs

/-- The outputs for the elements of a list that are arrays. -/
def applyArrays (node : Node) : List Value → List Value
  | [] => []
  | v :: vs => (if v.isArray then (node.apply v).toList else []) ++ node.applyArrays vs

end

end Node

end Reshape
