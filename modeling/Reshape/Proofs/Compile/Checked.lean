import Reshape.Compile.Query
import Reshape.Proofs.Compile.Basic
import Reshape.Proofs.Node.Checked

/-!
# Building queries with checked indices

`CheckedQuery.build` turns a value into a query as `Query.compile` does, with every index checked:
those that nodes take when they are made and when they run, and the one at which a call puts what it
read among its constants. It is refused for what compiling is refused for, and stops at the first
index out of range. All nodes that are made on the way are kept with what is built.
-/

namespace Reshape

/-- Why a query is not built: it is refused, or an index on the way was out of range. -/
inductive Failure where
  | refused (e : CompileError)
  | outOfRange (o : OutOfRange)

abbrev Building := Except Failure

section Steps

variable {α : Type}

/-- A step that is refused or not. -/
def refusing (x : Except CompileError α) : Building α := x.mapError .refused

/-- A step with checked indices. -/
def inRange (x : Checked α) : Building α := x.mapError .outOfRange

/-- A step whose refusal, if it is one, lies under a key. -/
def locatedStep (key : String) : Building α → Building α
  | .error (.refused e) => .error (.refused (e.under key))
  | x => x

end Steps

/-- What a step makes of what a transformation gives, if it gives something. -/
def CheckedMapper.andThen (m : CheckedMapper) (step : Value → Checked (Option Value)) :
    CheckedMapper := fun v => do
  match ← m v with
  | none => return none
  | some w => step w

/-- A compiled selector whose indices are checked. -/
structure CheckedCompiled where
  source : ReadFrom
  mapper : CheckedMapper
  aggregation : Option Aggregation
  sort : Option Int64
  /-- The nodes inside, innermost first. -/
  nodes : List CheckedNode

/-- An argument of a function: it reads the input or is given. -/
inductive CheckedArgument where
  | read (c : CheckedCompiled)
  | constant (v : Value)

/-- The compiled read of an argument. -/
def CheckedArgument.read? : CheckedArgument → Option CheckedCompiled
  | .read c => some c
  | .constant _ => none

/-- The values of the arguments with a place kept for the read. -/
def CheckedArgument.template : CheckedArgument → Value
  | .read _ => .null
  | .constant v => v

/-- A node inside a chain, run for what the head selected. -/
def CheckedNode.step (node : CheckedNode) (v : Value) : Checked (Option Value) := do
  match ← node.apply v with
  | none => return none
  | some written =>
    if node.distributes && v.isArray then
      match written with
      | .array tuples => return some (.array (tuples.filterMap firstSlot))
      | _ => return none
    else return firstSlot written

namespace CheckedCompiled

/-- Reads and changes nothing. -/
def reading (source : ReadFrom) : CheckedCompiled := ⟨source, Mapper.checked id, none, none, []⟩

/-- Refuses directives where they have no effect. -/
def withoutDirectives (c : CheckedCompiled) (place : Place) : Building Unit :=
  refusing (Compiled.withoutDirectives ⟨c.source, id, c.aggregation, c.sort, []⟩ place)

/-- The entry of a node for a destination. -/
def toEntry (c : CheckedCompiled) (dest : Key) : CheckedEntry :=
  match c.source with
  | .excluded => .exclusion dest
  | .same => .field ⟨dest, dest, c.mapper, c.aggregation, c.sort⟩
  | .key source => .field ⟨dest, source, c.mapper, c.aggregation, c.sort⟩

/-- What a compiled selector of the key `*` does with leftovers. -/
def toRemaining (c : CheckedCompiled) : Building CheckedRemaining := do
  c.withoutDirectives .remaining
  match c.source with
  | .excluded => return .dropped
  | .same => return .copied c.mapper
  | .key k => refusing (refuse (.invalidSelector ("[" ++ k.text ++ "]") .remainingReadsKey))

/-- What stands behind the name of an aggregation, with its directive. -/
def aggregated (rest : CheckedCompiled) (name : String) (aggregation : Aggregation) :
    Building CheckedCompiled :=
  if rest.aggregation.isSome then refusing (refuse (.misplacedDirective name .nested))
  else if rest.source = .excluded then refusing (refuse (.misplacedDirective name .excluded))
  else .ok { rest with aggregation := some aggregation }

/-- The only entry of the node that runs the tail of a chain. -/
def stepEntry (tail : CheckedCompiled) : CheckedEntry :=
  .field
    { dest := .position 0
      source :=
        match tail.source with
        | .key k => k
        | _ => .position 0
      mapper := tail.mapper
      aggregation := none
      sort := none }

/-- A chain of two compiled selectors. -/
def chain (head tail : CheckedCompiled) : Building CheckedCompiled := do
  let node ← inRange (CheckedNode.build [tail.stepEntry] .dropped none)
  return {
    source := head.source
    mapper := CheckedMapper.andThen head.mapper node.step
    aggregation := tail.aggregation.or head.aggregation
    sort := head.sort.or tail.sort
    nodes := head.nodes ++ tail.nodes ++ [node] }

end CheckedCompiled

/-- What a function makes of what was read, put among the constants at a place kept for it. -/
def Transform.applyAt (f : Transform) (template : List Value) (slot : Nat) (v : Value) :
    Checked (Option Value) :=
  if template.length = 1 then return some (f.apply [v])
  else do
    let values ← store template slot v
    return some (f.apply values)

/-- The call of a function once its arguments are compiled; exactly one of them has to read the
input. -/
def Transform.callChecked (f : Transform) (name : String) (written : List Value)
    (args : List CheckedArgument) : Building CheckedCompiled :=
  match args.filterMap CheckedArgument.read? with
  | [read] =>
    if read.source = .excluded then refusing (refuse (.unsupportedArguments name .excludedRead))
    else
      let template := args.map CheckedArgument.template
      let slot := args.findIdx (·.read?.isSome)
      .ok
        { source := read.source
          mapper := CheckedMapper.andThen read.mapper (f.applyAt template slot)
          aggregation := none
          sort := none
          nodes := read.nodes }
  | reads =>
    refusing (refuse (.unsupportedArguments name
      (.readCount reads.length (Value.array written).compact)))

mutual

/-- Builds a selector. -/
def Selector.build (r : Resolver) : Selector → Building CheckedCompiled
  | .exclude => .ok (.reading .excluded)
  | .copy => .ok (.reading .same)
  | .sort priority => .ok { CheckedCompiled.reading .same with sort := some priority }
  | .named name =>
    match r.aggregation? name, r.function? name with
    | some aggregation, _ =>
      .ok { CheckedCompiled.reading .same with aggregation := some aggregation }
    | none, some f => .ok { CheckedCompiled.reading .same with mapper := Mapper.checked f.ofInput }
    | none, none => refusing (refuse (.unknownName name))
  | .pipeline p => p.build r
  | .fields f => f.build r
termination_by s => s.weight
decreasing_by all_goals simp only [Selector.weight]; omega

/-- Builds a pipeline. -/
def Pipeline.build (r : Resolver) : Pipeline → Building CheckedCompiled
  | .identity => .ok (.reading .same)
  | .access key => .ok (.reading (.key key))
  | .constant v => .ok { CheckedCompiled.reading .same with mapper := fun _ => .ok (some v) }
  | .nested f => f.build r
  | .call name args =>
    match r.function? name, r.aggregation? name with
    | some f, _ => do
      let built ← buildArguments r args
      f.callChecked name args built
    | none, none => refusing (refuse (.unknownFunction name))
    | none, some aggregation =>
      match _parsed : Selector.parseRest args with
      | .error e => .error (.refused e)
      | .ok s => do
        let rest ← s.build r
        rest.aggregated name aggregation
  | .chain head tail => do
    let head ← head.build r
    if head.source = .excluded then refusing (refuse (.misplacedDirective "false" .chainStart))
    else
      let tail ← tail.build r
      if tail.source = .excluded then refusing (refuse (.misplacedDirective "false" .chainEnd))
      else head.chain tail
termination_by p => p.weight
decreasing_by
  · simp only [Pipeline.weight]
    omega
  · simp only [Pipeline.weight]
    omega
  · have := Selector.weight_le_of_parseRest _parsed
    simp only [Pipeline.weight]
    omega
  · simp only [Pipeline.weight]
    omega
  · simp only [Pipeline.weight]
    omega

/-- Builds the arguments of a function. -/
def buildArguments (r : Resolver) (args : List Value) : Building (List CheckedArgument) :=
  match args with
  | [] => .ok []
  | arg :: args =>
    match _reads : arg.readElements? with
    | none => do
      let rest ← buildArguments r args
      return .constant (arg.quoted?.getD arg) :: rest
    | some elements =>
      match _parsed : Pipeline.parse elements with
      | .error e => .error (.refused e)
      | .ok p => do
        let read ← p.build r
        read.withoutDirectives .argument
        let rest ← buildArguments r args
        return .read read :: rest
termination_by 2 + itemsWeight args
decreasing_by
  · simp only [itemsWeight]
    omega
  · have := Pipeline.weight_le_of_parse _ _parsed
    have := Value.itemsWeight_le_of_readElements? _reads
    simp only [itemsWeight]
    omega
  · simp only [itemsWeight]
    omega

/-- Builds the node of an object selector. -/
def FieldSelector.build (r : Resolver) : FieldSelector → Building CheckedCompiled
  | .mk fields remaining filter => do
    let (entries, fieldNodes) ← buildEntries r fields
    let (remaining, remainingNodes) ← buildRemaining r remaining
    let test ← refusing (compileFilter r filter)
    let node ← inRange (CheckedNode.build entries remaining test)
    return { CheckedCompiled.reading .same with
      mapper := CheckedMapper.andThen (Mapper.checked id) node.apply
      nodes := fieldNodes ++ remainingNodes ++ [node] }
termination_by f => f.weight
decreasing_by all_goals simp only [FieldSelector.weight]; omega

/-- Builds the fields of an object selector, in written order. -/
def buildEntries (r : Resolver) (fields : List (String × Selector)) :
    Building (List CheckedEntry × List CheckedNode) :=
  match fields with
  | [] => .ok ([], [])
  | (raw, s) :: fields => do
    let dest := r.key raw
    refusing (checkDestination raw dest)
    let built ← locatedStep raw (s.build r)
    let (entries, nodes) ← buildEntries r fields
    return (built.toEntry dest :: entries, built.nodes ++ nodes)
termination_by entriesWeight fields
decreasing_by all_goals simp only [entriesWeight]; omega

/-- Builds the selector of the key `*`. -/
def buildRemaining (r : Resolver) (remaining : Option Selector) :
    Building (CheckedRemaining × List CheckedNode) :=
  match remaining with
  | none => .ok (.unspecified, [])
  | some s => do
    let built ← locatedStep selectAllKey (s.build r)
    let remaining ← locatedStep selectAllKey built.toRemaining
    return (remaining, built.nodes)
termination_by remainingWeight remaining
decreasing_by all_goals simp only [remainingWeight]; omega

end

/-- A query whose indices are checked. -/
structure CheckedQuery where
  source : ReadFrom
  mapper : CheckedMapper
  nodes : List CheckedNode

namespace CheckedQuery

/-- Parses and builds a query. -/
def build (r : Resolver) (v : Value) : Building CheckedQuery := do
  let selector ← refusing (Selector.parse v)
  let built ← selector.build r
  built.withoutDirectives .topLevel
  return ⟨built.source, built.mapper, built.nodes⟩

/-- The output for an input. -/
def apply (q : CheckedQuery) (input : Value) : Checked (Option Value) :=
  match q.source with
  | .excluded => .ok none
  | .same => q.mapper (some input)
  | .key k => q.mapper (input.index? k)

end CheckedQuery

end Reshape
