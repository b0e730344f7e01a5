import Reshape.Binary64.Basic

/-!
# JSON values

The data that queries read, the results they build, and the queries themselves are all values of
one type. Integers are 64-bit and stay apart from binary64 numbers, so integer data stays integer
through copies and totals. The fields of an object are a list in written order: the order shows in
every output, while no lookup and no equality depends on it.
-/

namespace Reshape

/-- A JSON value. -/
inductive Value where
  | null
  | bool (b : Bool)
  | int (n : Int64)
  | float (x : Float)
  | string (s : String)
  | array (items : List Value)
  /-- Fields in written order, no name twice. -/
  | object (fields : List (String × Value))
deriving Inhabited

namespace Value

/-- Everything but arrays and objects. -/
def isTerminal : Value → Bool
  | .array _ | .object _ => false
  | _ => true

/-- What holds of every terminal value, of an array as soon as it holds of its items and of an
object as soon as it holds of its fields, holds of all values. -/
@[elab_as_elim]
theorem induction {P : Value → Prop} (terminal : ∀ v, v.isTerminal = true → P v)
    (array : ∀ items, (∀ v ∈ items, P v) → P (.array items))
    (object : ∀ fields, (∀ p ∈ fields, P p.2) → P (.object fields)) (v : Value) : P v := by
  refine @Value.rec P (fun items => ∀ v ∈ items, P v) (fun fields => ∀ p ∈ fields, P p.2)
    (fun p => P p.2) (terminal _ rfl) (fun _ => terminal _ rfl) (fun _ => terminal _ rfl)
    (fun _ => terminal _ rfl) (fun _ => terminal _ rfl) array object ?_ ?_ ?_ ?_ ?_ v
  · exact fun _ h => nomatch h
  · exact fun _ _ hv hvs => List.forall_mem_cons.2 ⟨hv, hvs⟩
  · exact fun _ h => nomatch h
  · exact fun _ _ hp hps => List.forall_mem_cons.2 ⟨hp, hps⟩
  · exact fun _ _ hv => hv

def isArray : Value → Bool
  | .array _ => true
  | _ => false

def isObject : Value → Bool
  | .object _ => true
  | _ => false

def isNumber : Value → Bool
  | .int _ | .float _ => true
  | _ => false

/-- The name of a value's kind, as answers show it. -/
def kindName : Value → String
  | .null => "null"
  | .bool _ => "boolean"
  | .int _ => "integer"
  | .float _ => "float"
  | .string _ => "string"
  | .array _ => "array"
  | .object _ => "object"

/-- The binary64 number nearest to an integer. -/
def floatOfInt (n : Int64) : Float := Binary64.ofInt n.toInt

/-- A number as binary64; other values have none. -/
def toFloat? : Value → Option Float
  | .int n => some (floatOfInt n)
  | .float x => some x
  | _ => none

def toString? : Value → Option String
  | .string s => some s
  | _ => none

/-- The value of a field; absent for a missing field and for everything that is no object. -/
def get? : Value → String → Option Value
  | .object fields, name => fields.lookup name
  | _, _ => none

/-- The place in a list of `length` items that a position names: negative positions count from the
end, `-1` being the last. -/
def place? (length : Nat) (position : Int64) : Option Nat :=
  let n := position.toInt
  if 0 ≤ n then some n.toNat
  else if n.natAbs ≤ length then some (length - n.natAbs) else none

/-- The element of an array at a position; absent past either end and for everything that is no
array. -/
def at? : Value → Int64 → Option Value
  | .array items, position => (place? items.length position).bind (items[·]?)
  | _, _ => none

/-- From zero on positions count from the front, and below zero they count from the front of the
reversed list, which starts with `-1`. -/
theorem at?_array (items : List Value) (position : Int64) :
    (array items).at? position =
      if 0 ≤ position.toInt then items[position.toInt.toNat]?
      else items.reverse[position.toInt.natAbs - 1]? := by
  rw [at?, place?]
  split
  case isTrue => rfl
  case isFalse hneg =>
    by_cases hfits : position.toInt.natAbs ≤ items.length
    · rw [if_pos hfits, Option.bind_some, List.getElem?_reverse (by omega)]
      congr 1
      omega
    · rw [if_neg hfits, Option.bind_none, eq_comm, List.getElem?_eq_none_iff, List.length_reverse]
      omega

mutual

/-- The value with every infinity and NaN replaced by null, which is what a JSON number can hold.
-/
def finite : Value → Value
  | .float x => if Binary64.isFinite x then .float x else .null
  | .array items => .array (finiteItems items)
  | .object fields => .object (finiteFields fields)
  | v => v

def finiteItems : List Value → List Value
  | [] => []
  | v :: vs => v.finite :: finiteItems vs

def finiteFields : List (String × Value) → List (String × Value)
  | [] => []
  | (name, v) :: fields => (name, v.finite) :: finiteFields fields

end

end Value

/-- A compiled predicate; an absent value is tested as such. -/
abbrev Test := Option Value → Bool

end Reshape
