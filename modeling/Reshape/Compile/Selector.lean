import Reshape.Compile.Call
import Reshape.Compile.Chain
import Reshape.Compile.Predicate
import Reshape.Query.Weight

/-!
# Compiling selectors

Each form of selector compiles to a `Compiled`. A name on its own is looked up as an aggregation
first; the head of a call as a function first. Object selectors become nodes: their fields are
compiled in written order, then the selector of `*`, then the predicate of `?`, and the first error
ends it.

Compiling a call parses the arguments it holds, so the recursion is not on the syntax alone; it is
on its weight, which parsing does not increase.
-/

namespace Reshape

/-- The largest position that a destination may name; a tuple has a slot for every position up to
its largest. -/
def maxTuplePosition : Int64 := 65535

/-- The entry of a node for a destination. -/
def Compiled.toEntry (c : Compiled) (dest : Key) : Entry :=
  match c.source with
  | .excluded => .exclusion dest
  | .same => .field ⟨dest, dest, c.mapper, c.aggregation, c.sort⟩
  | .key source => .field ⟨dest, source, c.mapper, c.aggregation, c.sort⟩

/-- Refuses a destination too far out for a tuple. -/
def checkDestination (raw : String) : Key → Except CompileError Unit
  | .position n =>
    if maxTuplePosition < n then
      located raw (refuse (.invalidSelector raw (.positionTooLarge maxTuplePosition.toInt)))
    else .ok ()
  | .name _ => .ok ()

/-- What a compiled selector of the key `*` does with leftovers. -/
def Compiled.toRemaining (c : Compiled) : Except CompileError Remaining :=
  match c.withoutDirectives .remaining with
  | .error e => .error e
  | .ok () =>
    match c.source with
    | .excluded => .ok .dropped
    | .same => .ok (.copied c.mapper)
    | .key k => refuse (.invalidSelector ("[" ++ k.text ++ "]") .remainingReadsKey)

/-- The compiled predicate of the key `?`. -/
def compileFilter (r : Resolver) : Option Predicate → Except CompileError (Option Test)
  | none => .ok none
  | some p => some <$> located filterKey (p.compile r)

mutual

/-- Compiles a selector. -/
def Selector.compile (r : Resolver) : Selector → Except CompileError Compiled
  | .exclude => .ok (.reading .excluded)
  | .copy => .ok (.reading .same)
  | .sort priority => .ok { Compiled.reading .same with sort := some priority }
  | .named name =>
    match r.aggregation? name, r.function? name with
    | some aggregation, _ => .ok { Compiled.reading .same with aggregation := some aggregation }
    | none, some f => .ok { Compiled.reading .same with mapper := f.ofInput }
    | none, none => refuse (.unknownName name)
  | .pipeline p => p.compile r
  | .fields f => f.compile r
termination_by s => s.weight
decreasing_by all_goals simp only [Selector.weight]; omega

/-- Compiles a pipeline. -/
def Pipeline.compile (r : Resolver) : Pipeline → Except CompileError Compiled
  | .identity => .ok (.reading .same)
  | .access key => .ok (.reading (.key key))
  | .constant v => .ok { Compiled.reading .same with mapper := fun _ => some v }
  | .nested f => f.compile r
  | .call name args =>
    match r.function? name, r.aggregation? name with
    | some f, _ => do
      let compiled ← compileArguments r args
      f.call name args compiled
    | none, none => refuse (.unknownFunction name)
    | none, some aggregation => do
      let rest ← compileRest r args
      if rest.aggregation.isSome then refuse (.misplacedDirective name .nested)
      else if rest.source = .excluded then refuse (.misplacedDirective name .excluded)
      else return { rest with aggregation := some aggregation }
  | .chain head tail => do
    let head ← head.compile r
    if head.source = .excluded then refuse (.misplacedDirective "false" .chainStart)
    else
      let tail ← tail.compile r
      if tail.source = .excluded then refuse (.misplacedDirective "false" .chainEnd)
      else return .chain head tail
termination_by p => p.weight
decreasing_by all_goals simp only [Pipeline.weight]; omega

/-- Compiles what stands behind the name of an aggregation: a selector, or the elements of a
pipeline. -/
def compileRest (r : Resolver) (args : List Value) : Except CompileError Compiled :=
  match args with
  | [single] =>
    match _parsed : Selector.parse single with
    | .error e => .error e
    | .ok s => s.compile r
  | args =>
    match _parsed : Pipeline.parse args with
    | .error e => .error e
    | .ok p => p.compile r
termination_by 2 + itemsWeight args
decreasing_by
  · have := Selector.weight_le_of_parse _ _parsed
    simp only [itemsWeight]
    omega
  · have := Pipeline.weight_le_of_parse _ _parsed
    omega

/-- Compiles the arguments of a function. -/
def compileArguments (r : Resolver) (args : List Value) : Except CompileError (List Argument) :=
  match args with
  | [] => .ok []
  | arg :: args =>
    match _reads : arg.readElements? with
    | none => do
      let rest ← compileArguments r args
      return .constant (arg.quoted?.getD arg) :: rest
    | some elements =>
      match _parsed : Pipeline.parse elements with
      | .error e => .error e
      | .ok p => do
        let read ← p.compile r
        read.withoutDirectives .argument
        let rest ← compileArguments r args
        return .read read :: rest
termination_by 2 + itemsWeight args
decreasing_by
  · simp only [itemsWeight]
    omega
  · have hp := Pipeline.weight_le_of_parse _ _parsed
    have he : itemsWeight elements ≤ arg.weight := by
      unfold Value.readElements? at _reads
      split at _reads
      · split at _reads
        · cases _reads
          simp only [Value.weight]
          omega
        · cases _reads
      · cases _reads
    simp only [itemsWeight]
    omega
  · simp only [itemsWeight]
    omega

/-- Compiles an object selector into a node. -/
def FieldSelector.compile (r : Resolver) : FieldSelector → Except CompileError Compiled
  | .mk fields remaining filter => do
    let (entries, fieldNotices) ← compileEntries r fields
    let (remaining, remainingNotices) ← compileRemaining r remaining
    let test ← compileFilter r filter
    let node := Node.plan entries remaining test
    return { Compiled.reading .same with
      mapper := fun v => v.bind node.apply
      notices := fieldNotices ++ remainingNotices ++ Node.planNotices entries }
termination_by f => f.weight
decreasing_by all_goals simp only [FieldSelector.weight]; omega

/-- Compiles the fields of an object selector, in written order. -/
def compileEntries (r : Resolver) (fields : List (String × Selector)) :
    Except CompileError (List Entry × List Notice) :=
  match fields with
  | [] => .ok ([], [])
  | (raw, s) :: fields => do
    let dest := r.key raw
    checkDestination raw dest
    let compiled ← located raw (s.compile r)
    let (entries, notices) ← compileEntries r fields
    return (compiled.toEntry dest :: entries, compiled.notices ++ notices)
termination_by entriesWeight fields
decreasing_by all_goals simp only [entriesWeight]; omega

/-- Compiles the selector of the key `*`. -/
def compileRemaining (r : Resolver) (remaining : Option Selector) :
    Except CompileError (Remaining × List Notice) :=
  match remaining with
  | none => .ok (.unspecified, [])
  | some s => do
    let compiled ← located selectAllKey (s.compile r)
    let remaining ← located selectAllKey compiled.toRemaining
    return (remaining, compiled.notices)
termination_by remainingWeight remaining
decreasing_by all_goals simp only [remainingWeight]; omega

end

end Reshape
