import Reshape.Query.Error
import Reshape.Query.Syntax

/-!
# From values to queries

`Selector.parse` and `Predicate.parse` recognise the shape of a query value. Names are kept as they
are: what a name means is decided when the query is compiled.
-/

namespace Reshape

/-! ## Predicates -/

namespace Predicate

mutual

/-- The predicate a value writes. A disjunction directly inside a disjunction has no meaning and is
refused. -/
def parse : Value → Except CompileError Predicate
  | .object fields => .all <$> parseEntries fields
  | .array alternatives => .any <$> parseAlternatives (.array alternatives) alternatives
  | terminal => .ok (.equals terminal)

/-- The entries of a conjunction. -/
def parseEntries : List (String × Value) → Except CompileError (List (String × Predicate))
  | [] => .ok []
  | (key, v) :: fields => do
    let entry ← located key (parse v)
    return (key, entry) :: (← parseEntries fields)

/-- The alternatives of the disjunction `whole`. -/
def parseAlternatives (whole : Value) : List Value → Except CompileError (List Predicate)
  | [] => .ok []
  | v :: vs => do
    if v.isArray then refuse (.nestedDisjunction whole.compact)
    else
      let alternative ← parse v
      return alternative :: (← parseAlternatives whole vs)

end

end Predicate

/-! ## Selectors -/

mutual

/-- The selector a value writes. -/
def Selector.parse : Value → Except CompileError Selector
  | .null => .ok .exclude
  | .bool false => .ok .exclude
  | .bool true => .ok .copy
  | .int n =>
    if n = 0 then refuse (.invalidSelector (Value.compact (.int n)) .zeroPriority)
    else .ok (.sort n)
  | .float x => refuse (.invalidSelector (Value.compact (.float x)) .fractionalPriority)
  | .string name => .ok (.named name)
  | .array elements => .pipeline <$> Pipeline.parse elements
  | .object fields => .fields <$> FieldSelector.parse fields

/-- The pipeline that the elements of an array write. -/
def Pipeline.parse : List Value → Except CompileError Pipeline
  | [] => .ok .identity
  | [element] => Pipeline.parseAccessor element
  | first :: second :: rest =>
    match first.toString?, rest with
    | some name, _ => .ok (.call name (second :: rest))
    | none, [] => do
      let head ← Selector.parse first
      let tail ← Selector.parse second
      return .chain head tail
    | none, _ :: _ => do
      let head ← Selector.parse first
      let tail ← Pipeline.parse (second :: rest)
      return .chain head (.pipeline tail)

/-- The pipeline of an array with one element. -/
def Pipeline.parseAccessor : Value → Except CompileError Pipeline
  | .string name => .ok (.access (.name name))
  | .int position => .ok (.access (.position position))
  | .array [constant] => .ok (.constant constant)
  | .array items => refuse (.invalidSelector (Value.compact (.array items)) .constantArity)
  | .object fields => .nested <$> FieldSelector.parse fields
  | v => refuse (.invalidSelector v.compact .noAccessor)

/-- The field selector of an object's fields; the two reserved keys are set apart. -/
def FieldSelector.parse : List (String × Value) → Except CompileError FieldSelector
  | [] => .ok (.mk [] none none)
  | (key, v) :: fields =>
    if key = selectAllKey then do
      let all ← located key (Selector.parse v)
      let f ← FieldSelector.parse fields
      return .mk f.fields (some all) f.filter
    else if key = filterKey then do
      let filter ← located key (Predicate.parse v)
      let f ← FieldSelector.parse fields
      return .mk f.fields f.remaining (some filter)
    else do
      let field ← located key (Selector.parse v)
      let f ← FieldSelector.parse fields
      return .mk ((key, field) :: f.fields) f.remaining f.filter

end

end Reshape
