import Reshape.Node.Row

/-!
# Reading records

How a source key reads a record, which entries a record has, and which of them a key reads. To a
position an object is a list of one element, itself.
-/

namespace Reshape

/-- What a source key reads from a record. -/
def Key.read : Key → Value → Option Value
  | .name field, input => input.get? field
  | .position n, .object fields => if n = 0 ∨ n = -1 then some (.object fields) else none
  | .position n, input => input.at? n

/-- The number of elements a record has for positions. -/
def Value.width : Value → Nat
  | .array items => items.length
  | .object _ => 1
  | _ => 0

/-- The key under which `entries` lists what a source key reads: positions from the end are counted
from the front. -/
def Key.resolve : Key → Value → Key
  | .name field, _ => .name field
  | .position n, input =>
    let fromFront : Int := input.width + n.toInt
    if n < 0 ∧ 0 ≤ fromFront then .position (Int64.ofInt fromFront) else .position n

/-- The entries of a record, with their keys, as keys of one kind see them. -/
def KeyKind.entries : KeyKind → Value → List (Key × Value)
  | .name, .object fields => fields.map fun entry => (.name entry.1, entry.2)
  | .position, .array items => items.mapIdx fun i v => (.position (Int64.ofNat i), v)
  | .position, .object fields => [(.position 0, .object fields)]
  | _, _ => []

end Reshape
