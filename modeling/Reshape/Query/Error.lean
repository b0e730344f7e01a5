import Reshape.Json.Printer

/-!
# Errors of compilation

A query that means nothing is refused at its first malformed part. A `CompileError` says what is
wrong (`Fault`) and, by the keys that lead there from the outside in, where. The wording is decided
once, in `CompileError.message`.

A conflict that only costs a field, such as a destination written twice, is no error; see the
notices of a plan.

Two things have no place here. Why a text is no pattern only its engine can say, so that the fault
names the pattern alone. And no predicate is refused for its shape other than a disjunction in a
disjunction, so there is no fault for it.
-/

namespace Reshape

/-- Why a selector is refused for its shape. -/
inductive SelectorFault where
  | zeroPriority
  | fractionalPriority
  | constantArity
  | noAccessor
  /-- A destination position past the longest tuple. -/
  | positionTooLarge (limit : Int)
  | remainingReadsKey
deriving DecidableEq

def SelectorFault.reason : SelectorFault → String
  | .zeroPriority => "sort priority must be nonzero"
  | .fractionalPriority => "sort directive must be an integer priority"
  | .constantArity => "a constant is written [[value]] with exactly one value"
  | .noAccessor =>
    "an accessor must be a field name, an integer index, [constant] or an object selector"
  | .positionTooLarge limit => "tuple positions go up to " ++ toString limit
  | .remainingReadsKey => "select-all copies every remaining field and can't read one key"

/-- Why the arguments of a function are refused. -/
inductive ArgumentFault where
  /-- A number of arguments other than one reads the input. -/
  | readCount (found : Nat) (args : String)
  | excludedRead
deriving DecidableEq

def ArgumentFault.reason : ArgumentFault → String
  | .readCount found args =>
    "exactly one argument must read the input, found " ++ toString found ++ " in " ++ args
  | .excludedRead => "an argument can't read an excluded field"

/-- Why the operand of a predicate operator is refused. -/
inductive OperandFault where
  | object
  | array
  /-- A pattern that is no string. -/
  | noPattern (operand : String)
  /-- What an operator that an application adds has to say. -/
  | custom (reason : String)
deriving DecidableEq

def OperandFault.reason : OperandFault → String
  | .object => "expected a literal, got an object"
  | .array => "expected a literal, got an array"
  | .noPattern operand => "pattern must be a string, got " ++ operand
  | .custom reason => reason

/-- A place of a query where sorting and aggregation have no effect. -/
inductive Place where
  | topLevel
  | remaining
  | argument
deriving DecidableEq

def Place.text : Place → String
  | .topLevel => "on the top-level selector"
  | .remaining => "on select-all"
  | .argument => "inside a function argument"

/-- Why a directive is refused where it stands. -/
inductive DirectiveFault where
  | sorting (place : Place)
  | aggregation (place : Place)
  | nested
  | excluded
  | chainStart
  | chainEnd
deriving DecidableEq

def DirectiveFault.reason : DirectiveFault → String
  | .sorting place => "sorting has no effect " ++ place.text
  | .aggregation place => "aggregation has no effect " ++ place.text
  | .nested => "aggregations can't be nested"
  | .excluded => "an excluded field can't be aggregated"
  | .chainStart => "a chain can't start with an exclusion"
  | .chainEnd => "a chain can't end with an exclusion"

/-- What is wrong with a query. -/
inductive Fault where
  | invalidSelector (fragment : String) (why : SelectorFault)
  | nestedDisjunction (fragment : String)
  /-- The head of a call is neither a function nor an aggregation. -/
  | unknownFunction (name : String)
  /-- A name on its own is neither an aggregation nor a function. -/
  | unknownName (name : String)
  | unsupportedArguments (function : String) (why : ArgumentFault)
  | invalidOperand (operator : String) (why : OperandFault)
  | invalidPattern (pattern : String)
  | misplacedDirective (directive : String) (why : DirectiveFault)
deriving DecidableEq

def Fault.message : Fault → String
  | .invalidSelector fragment why => "Invalid selector " ++ fragment ++ ": " ++ why.reason
  | .nestedDisjunction fragment =>
    "Unsupported predicate " ++ fragment ++ ": an OR list cannot contain another OR list"
  | .unknownFunction name => "Unknown function: " ++ name
  | .unknownName name => "Unknown aggregator or function: " ++ name
  | .unsupportedArguments function why =>
    "Unsupported arguments for " ++ function ++ ": " ++ why.reason
  | .invalidOperand operator why =>
    "Invalid operand for '" ++ operator ++ "': " ++ why.reason
  | .invalidPattern pattern => "Invalid regex '" ++ pattern ++ "'"
  | .misplacedDirective directive why =>
    "Misplaced directive " ++ directive ++ ": " ++ why.reason

/-- A fault and the keys that lead to it. -/
structure CompileError where
  path : List String
  fault : Fault
deriving DecidableEq

namespace CompileError

/-- A fault at the place where it is noticed. -/
def of (fault : Fault) : CompileError := ⟨[], fault⟩

/-- The same error seen from one key further out. -/
def under (key : String) (e : CompileError) : CompileError := { e with path := key :: e.path }

/-- The whole message, with the place in front unless it is the query itself. -/
def message (e : CompileError) : String :=
  match e.path with
  | [] => e.fault.message
  | path => "at ." ++ String.intercalate "." path ++ ": " ++ e.fault.message

end CompileError

/-- A result whose error, if it is one, lies under a key. -/
def located {α : Type} (key : String) (x : Except CompileError α) : Except CompileError α :=
  match x with
  | .ok a => .ok a
  | .error e => .error (e.under key)

/-- Refuses with a fault. -/
def refuse {α : Type} (fault : Fault) : Except CompileError α := .error (.of fault)

/-! ## Results -/

variable {α β : Type}

/-- Naming the place of an error does not touch a result. -/
theorem located_eq_ok {key : String} {x : Except CompileError α} {a : α} :
    located key x = .ok a ↔ x = .ok a := by
  cases x <;> simp [located]

theorem refuse_ne_ok {fault : Fault} {a : α} : refuse fault ≠ .ok a := by
  simp [refuse]

/-- Two steps succeed exactly when the first does and the second does from there. -/
theorem bind_eq_ok {x : Except CompileError α} {f : α → Except CompileError β} {b : β} :
    (x >>= f) = .ok b ↔ ∃ a, x = .ok a ∧ f a = .ok b := by
  cases x <;> simp [bind, Except.bind]

theorem map_eq_ok {x : Except CompileError α} {f : α → β} {b : β} :
    (f <$> x) = .ok b ↔ ∃ a, x = .ok a ∧ f a = b := by
  cases x <;> simp [Functor.map, Except.map]

end Reshape
