import Reshape.Compile.Basic

/-!
# Chains

A chain hands what its head selects to its tail. The tail runs as the one field of a node that
writes tuples, so it reads, goes through lists of records and is broadcast like every field; the
tuple is taken off again at the end.
-/

namespace Reshape

/-- The first slot of a tuple. -/
def firstSlot : Value → Option Value
  | .array slots => slots.head?
  | _ => none

/-- The only entry of the node that runs the tail of a chain: the first slot of a tuple, read from
the tail's key, or from the first position when the tail names none. -/
def Compiled.stepEntry (tail : Compiled) : Entry :=
  .field
    { dest := .position 0
      source :=
        match tail.source with
        | .key k => k
        | _ => .position 0
      mapper := tail.mapper
      aggregation := none
      sort := none }

/-- The node that runs the tail of a chain. -/
def Compiled.stepNode (tail : Compiled) : Node := Node.plan [tail.stepEntry] .dropped none

/-- What the tail of a chain makes of the value that the head selected: the output of its node
without the tuple around it, or around each record when the value is a list of records. -/
def Compiled.step (tail : Compiled) (v : Value) : Option Value := do
  let written ← tail.stepNode.apply v
  if tail.stepNode.distributes && v.isArray then
    match written with
    | .array tuples => return .array (tuples.filterMap firstSlot)
    | _ => none
  else firstSlot written

/-- A chain of two compiled selectors. -/
def Compiled.chain (head tail : Compiled) : Compiled :=
  { source := head.source
    mapper := fun v => (head.mapper v).bind tail.step
    aggregation := tail.aggregation.or head.aggregation
    sort := head.sort.or tail.sort
    notices := head.notices ++ tail.notices ++ Node.planNotices [tail.stepEntry] }

end Reshape
