import Reshape.Compile.Basic
import Reshape.Vocabulary.Transform

/-!
# Calls of functions

The arguments of a call are values. One of them reads the input: an array of at most one element,
which is the pipeline to read with. All others are constants, and `[[v]]` writes a constant `v`
that would otherwise look like a read. What was read takes its own place among the constants.
-/

namespace Reshape

/-- A function of the value itself; an absent value stays absent. -/
def Transform.ofInput (f : Transform) : Mapper := fun v => v.map fun v => f.apply [v]

/-- An argument of a function: it reads the input or is given. -/
inductive Argument where
  | read (c : Compiled)
  | constant (v : Value)

/-- The one element of an array inside an array that writes a constant, `[[v]]`. -/
def Value.quoted? : Value → Option Value
  | .array [.array [constant]] => some constant
  | _ => none

/-- The elements of an argument that reads the input: an array of at most one element that writes
no constant. -/
def Value.readElements? (arg : Value) : Option (List Value) :=
  match arg with
  | .array elements => if elements.length ≤ 1 && arg.quoted?.isNone then some elements else none
  | _ => none

/-- The compiled read of an argument. -/
def Argument.read? : Argument → Option Compiled
  | .read c => some c
  | .constant _ => none

/-- The values of the arguments with a place kept for the read. -/
def Argument.template : Argument → Value
  | .read _ => .null
  | .constant v => v

/-- The call of a function once its arguments are compiled; exactly one of them has to read the
input. -/
def Transform.call (f : Transform) (name : String) (written : List Value) (args : List Argument) :
    Except CompileError Compiled :=
  match args.filterMap Argument.read? with
  | [read] =>
    if read.source = .excluded then refuse (.unsupportedArguments name .excludedRead)
    else
      let template := args.map Argument.template
      let slot := args.findIdx (·.read?.isSome)
      .ok
        { source := read.source
          mapper := fun v => (read.mapper v).map fun v => f.apply (template.set slot v)
          aggregation := none
          sort := none
          notices := read.notices }
  | reads =>
    refuse (.unsupportedArguments name
      (.readCount reads.length (Value.array written).compact))

end Reshape
