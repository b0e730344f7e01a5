import Reshape.Node.Basic

/-!
# Planning a node

The first entry of a field selector fixes the kinds of keys for the whole node; an exclusion counts
with its kind on both sides, and without entries everything goes by name. Going through the entries
in order, one whose keys are of other kinds is ignored, and so is one whose destination an earlier
entry took. Nothing is ignored in silence: each gives a `Notice`, and a last notice tells what the
node became.
-/

namespace Reshape

/-- Something worth telling about the planning of a node. -/
inductive Notice where
  | fieldMismatch (source dest : Key) (strategy : Strategy)
  | fieldTwice (key : Key)
  | exclusionMismatch (key : Key) (strategy : Strategy)
  | exclusionTwice (key : Key)
  | planned (strategy : Strategy) (fields : Nat) (grouped sorted : Bool)
deriving DecidableEq

def KeyKind.label : KeyKind → String
  | .name => "Name"
  | .position => "Position"

def Strategy.text (s : Strategy) : String :=
  "Strategy \x7b source: " ++ s.source.label ++ ", dest: " ++ s.dest.label ++ " \x7d"

namespace Notice

/-- Whether the notice is about an entry that was ignored. -/
def isWarning : Notice → Bool
  | .planned .. => false
  | _ => true

def message : Notice → String
  | .fieldMismatch .. => "field keys don't match the copy strategy, ignoring field"
  | .fieldTwice _ => "destination key written twice, ignoring field"
  | .exclusionMismatch .. => "excluded key doesn't match the copy strategy, ignoring it"
  | .exclusionTwice _ => "destination key written twice, ignoring exclusion"
  | .planned .. => "copy strategy fixed"

/-- What the notice is about, as named texts. -/
def details : Notice → List (String × String)
  | .fieldMismatch source dest strategy =>
    [("source", source.text), ("dest", dest.text), ("strategy", strategy.text)]
  | .fieldTwice key => [("key", key.text)]
  | .exclusionMismatch key strategy => [("key", key.text), ("strategy", strategy.text)]
  | .exclusionTwice key => [("key", key.text)]
  | .planned strategy fields grouped sorted =>
    [("strategy", strategy.text), ("fields", toString fields), ("grouped", toString grouped),
      ("sorted", toString sorted)]

end Notice

/-- The kinds of keys that the first of some entries fixes. -/
def Strategy.choose : List Entry → Strategy
  | .field f :: _ => ⟨f.source.kind, f.dest.kind⟩
  | .exclusion dest :: _ => ⟨dest.kind, dest.kind⟩
  | [] => ⟨.name, .name⟩

/-- The entries that a node keeps, and notices about the others. -/
structure Kept where
  fields : List Field
  excluded : List Key
  notices : List Notice

/-- Sorts out entries; `written` holds the destinations taken by entries before them. -/
def Kept.of (strategy : Strategy) (written : List Key) : List Entry → Kept
  | [] => ⟨[], [], []⟩
  | .field f :: entries =>
    if f.source.kind ≠ strategy.source ∨ f.dest.kind ≠ strategy.dest then
      let kept := Kept.of strategy written entries
      { kept with notices := .fieldMismatch f.source f.dest strategy :: kept.notices }
    else if f.dest ∈ written then
      let kept := Kept.of strategy written entries
      { kept with notices := .fieldTwice f.dest :: kept.notices }
    else
      let kept := Kept.of strategy (f.dest :: written) entries
      { kept with fields := f :: kept.fields }
  | .exclusion dest :: entries =>
    if dest.kind ≠ strategy.dest then
      let kept := Kept.of strategy written entries
      { kept with notices := .exclusionMismatch dest strategy :: kept.notices }
    else if dest ∈ written then
      let kept := Kept.of strategy written entries
      { kept with notices := .exclusionTwice dest :: kept.notices }
    else
      let kept := Kept.of strategy (dest :: written) entries
      { kept with excluded := dest :: kept.excluded }

/-- The node for some entries. -/
def Node.plan (entries : List Entry) (remaining : Remaining) (filter : Option Test) : Node :=
  let strategy := Strategy.choose entries
  let kept := Kept.of strategy [] entries
  let silent := kept.fields.isEmpty
  { strategy := strategy
    fields := kept.fields
    excluded := kept.excluded
    remaining :=
      match remaining with
      | .copied mapper => some mapper
      | .dropped => none
      | .unspecified => if silent then some id else none
    filter := filter
    passthrough :=
      match remaining with
      | .unspecified => silent && filter.isSome
      | _ => false }

/-- The notices that planning a node for some entries gives. -/
def Node.planNotices (entries : List Entry) : List Notice :=
  let strategy := Strategy.choose entries
  let node := Node.plan entries .unspecified none
  (Kept.of strategy [] entries).notices ++
    [.planned strategy node.fields.length node.isGrouped (!node.sortKeys.isEmpty)]

end Reshape
