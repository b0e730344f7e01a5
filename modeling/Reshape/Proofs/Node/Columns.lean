import Reshape.Node.Plan
import Reshape.Proofs.Checked

/-!
# The columns of a node

A node under construction holds its fields in columns: lists of what their parts are, one member for
each kept field. The columns grow entry by entry (`Columns.extend`), and every entry is one of four:
it is passed over because its keys are of other kinds, or because its destination is taken, or it
adds to the columns of fields, or to the exclusions.

The columns hold what the node keeps, side by side (`Columns.extend_eq`); so all of them have the
same length.
-/

namespace Reshape

/-! ## Checked transformations -/

/-- A transformation whose indices are checked. -/
abbrev CheckedMapper := Option Value → Checked (Option Value)

/-- A field with a checked transformation. -/
structure CheckedField where
  dest : Key
  source : Key
  mapper : CheckedMapper
  aggregation : Option Aggregation
  sort : Option Int64

/-- An entry of a field selector with a checked transformation. -/
inductive CheckedEntry where
  | field (f : CheckedField)
  | exclusion (dest : Key)

/-- What happens to leftovers, with a checked transformation. -/
inductive CheckedRemaining where
  | unspecified
  | dropped
  | copied (m : CheckedMapper)

/-- A transformation, which takes no index out of range. -/
def Mapper.checked (m : Mapper) : CheckedMapper := fun v => .ok (m v)

def Field.checked (f : Field) : CheckedField :=
  ⟨f.dest, f.source, Mapper.checked f.mapper, f.aggregation, f.sort⟩

def Entry.checked : Entry → CheckedEntry
  | .field f => .field f.checked
  | .exclusion dest => .exclusion dest

def Remaining.checked : Remaining → CheckedRemaining
  | .unspecified => .unspecified
  | .dropped => .dropped
  | .copied m => .copied (Mapper.checked m)

/-- The kinds of keys that the first of some entries fixes. -/
def CheckedEntry.strategy : List CheckedEntry → Strategy
  | .field f :: _ => ⟨f.source.kind, f.dest.kind⟩
  | .exclusion dest :: _ => ⟨dest.kind, dest.kind⟩
  | [] => ⟨.name, .name⟩

theorem CheckedEntry.strategy_map (entries : List Entry) :
    strategy (entries.map Entry.checked) = Strategy.choose entries := by
  cases entries with
  | nil => rfl
  | cons entry entries => cases entry <;> rfl

/-! ## Columns -/

/-- What a node keeps of its entries, part by part. -/
structure Columns where
  /-- The source of each field and how it is transformed. -/
  readers : List (Key × CheckedMapper)
  dests : List Key
  aggregations : List (Option Aggregation)
  directives : List (Option Int64)
  excluded : List Key

namespace Columns

def empty : Columns := ⟨[], [], [], [], []⟩

/-- The columns with what some entries add; `written` holds the destinations taken so far. -/
def extend (strategy : Strategy) (written : List Key) (columns : Columns) :
    List CheckedEntry → Columns
  | [] => columns
  | .field f :: entries =>
    if f.source.kind ≠ strategy.source ∨ f.dest.kind ≠ strategy.dest then
      extend strategy written columns entries
    else if f.dest ∈ written then
      extend strategy written columns entries
    else
      extend strategy (f.dest :: written)
        { columns with
          readers := columns.readers ++ [(f.source, f.mapper)]
          dests := columns.dests ++ [f.dest]
          aggregations := columns.aggregations ++ [f.aggregation]
          directives := columns.directives ++ [f.sort] }
        entries
  | .exclusion dest :: entries =>
    if dest.kind ≠ strategy.dest then
      extend strategy written columns entries
    else if dest ∈ written then
      extend strategy written columns entries
    else
      extend strategy (dest :: written) { columns with excluded := columns.excluded ++ [dest] }
        entries

/-- The columns with some fields and exclusions behind what they hold. -/
def append (columns : Columns) (fields : List Field) (excluded : List Key) : Columns where
  readers := columns.readers ++ fields.map fun f => (f.source, Mapper.checked f.mapper)
  dests := columns.dests ++ fields.map (·.dest)
  aggregations := columns.aggregations ++ fields.map (·.aggregation)
  directives := columns.directives ++ fields.map (·.sort)
  excluded := columns.excluded ++ excluded

theorem append_nil (columns : Columns) : columns.append [] [] = columns := by
  simp [append]

/-- The columns are extended by what is kept of the entries. -/
theorem extend_eq (strategy : Strategy) (written : List Key) (columns : Columns)
    (entries : List Entry) :
    columns.extend strategy written (entries.map Entry.checked) =
      columns.append (Kept.of strategy written entries).fields
        (Kept.of strategy written entries).excluded := by
  induction entries generalizing written columns with
  | nil => exact columns.append_nil.symm
  | cons entry entries ih =>
    cases entry with
    | field f =>
      rw [List.map_cons, Entry.checked, extend, Kept.of, Field.checked]
      split
      · exact ih written columns
      · split
        · exact ih written columns
        · rw [ih]
          simp [append]
    | exclusion dest =>
      rw [List.map_cons, Entry.checked, extend, Kept.of]
      split
      · exact ih written columns
      · split
        · exact ih written columns
        · rw [ih]
          simp [append]

end Columns

end Reshape
