import Reshape.Node.Plan
import Reshape.Query.Error

/-!
# Compiled selectors

A compiled selector says where to read, relative to the key of the output field it belongs to, how
to transform what was read, and which directives for grouping and sorting the field brings to its
node. Directives have an effect only on a field of a node; everywhere else they are refused.
-/

namespace Reshape

/-- Where a compiled selector reads. -/
inductive ReadFrom where
  /-- Nowhere: the output field is left out. -/
  | excluded
  /-- The key of the output field. -/
  | same
  | key (k : Key)
deriving DecidableEq

/-- A compiled selector. -/
structure Compiled where
  source : ReadFrom
  mapper : Mapper
  aggregation : Option Aggregation
  sort : Option Int64
  /-- What planning the nodes inside gave, innermost first. -/
  notices : List Notice

namespace Compiled

/-- Reads and changes nothing. -/
def reading (source : ReadFrom) : Compiled := ⟨source, id, none, none, []⟩

/-- Refuses directives where they have no effect; of the two, sorting is named first. -/
def withoutDirectives (c : Compiled) (place : Place) : Except CompileError Unit :=
  match c.sort, c.aggregation with
  | some priority, _ =>
    refuse (.misplacedDirective (toString priority.toInt) (.sorting place))
  | none, some aggregation => refuse (.misplacedDirective aggregation.text (.aggregation place))
  | none, none => .ok ()

end Compiled

end Reshape
