import Reshape.Pattern.Escape

/-!
# Sets in brackets

A set in brackets holds characters, ranges, escapes and further sets. `^` in front negates it, and
`&&`, `--` and `~~` between two parts take what is in both, in the first only, or in exactly one of
them. A bracket that is not closed is refused, and so is a range whose ends are no characters or in
the wrong order.

Reading keeps count of how deep a set is written: brackets, several items side by side and
operations each are a level.
-/

namespace Reshape.Pattern

/-- A set and the number of levels it is written with. -/
structure WrittenSet where
  set : CharSet
  depth : Nat

/-- Some items side by side, last first. One item stands for itself. -/
def WrittenSet.ofItems : List WrittenSet → WrittenSet
  | [] => ⟨.empty, 0⟩
  | [item] => item
  | items =>
    { set := .unions (items.map (·.set))
      depth := (items.map (·.depth)).foldr max 0 + 1 }

/-- A set on the left of an operation whose right side is still being read. -/
structure PendingSet where
  left : WrittenSet
  operation : CharSet → CharSet → CharSet

/-- The items read so far as one set, joined with a pending left side. Operations come one after
the other from the left. -/
def closeSet (f : Flags) (pending : Option PendingSet) (items : List WrittenSet) : WrittenSet :=
  let right := WrittenSet.ofItems items
  match pending with
  | none => right
  | some ⟨left, operation⟩ =>
    { set := operation (f.finish false left.set) (f.finish false right.set)
      depth := max left.depth right.depth + 1 }

/-- An ASCII class by name, behind its opening bracket; none when the text there is no such class,
and then the bracket opens a set of its own. -/
def readBracketClass (f : Flags) (s : List Char) : Option (CharSet × List Char) :=
  match s with
  | ':' :: rest =>
    let (negated, rest) :=
      match rest with
      | '^' :: rest => (true, rest)
      | rest => (false, rest)
    match rest.span (· != ':') with
    | (name, ':' :: ']' :: rest) =>
      (bracketClass? (String.ofList name)).map fun c => (f.finish negated c, rest)
    | _ => none
  | _ => none

/-- One character or escape inside brackets. Without the standard's classes a character that is not
ASCII is refused. -/
def readSetItem (f : Flags) (s : List Char) : Option (Item × List Char) := do
  let (item, rest) ←
    match s with
    | [] => none
    | '\\' :: rest => readEscape f rest
    | c :: rest => some (.literal c, rest)
  match item with
  | .literal c => if !f.standard && 128 ≤ c.toNat then none else return (item, rest)
  | _ => return (item, rest)

/-- An item as a set; a place is none. -/
def Item.asSet? : Item → Option WrittenSet
  | .literal c => some ⟨.single c, 0⟩
  | .set c => some ⟨c, 0⟩
  | .anchor _ => none

/-- Reads an item or a range. A minus before `]` or another minus does not make a range. -/
def readSetRange (f : Flags) (s : List Char) : Option (WrittenSet × List Char) := do
  let (first, rest) ← readSetItem f s
  let rest := f.skip rest
  match rest with
  | [] => none
  | '-' :: behind =>
    match f.skip behind with
    | [] => none
    | c :: _ =>
      if c == ']' || c == '-' then return (← first.asSet?, rest)
      else
        let (last, rest) ← readSetItem f (f.skip behind)
        match first, last with
        | .literal a, .literal b =>
          if a.toNat ≤ b.toNat then return (⟨.range a b, 0⟩, rest) else none
        | _, _ => none
  | _ => return (← first.asSet?, rest)

/-- The minus signs at the front, which stand for themselves. -/
def readLeadingMinus (f : Flags) (items : List WrittenSet) : List Char →
    Option (List WrittenSet × List Char)
  | [] => none
  | '-' :: rest => readLeadingMinus f (⟨.single '-', 0⟩ :: items) rest
  | s => some (items, s)

/-- The start of a set in brackets: a negation, minus signs, and a bracket that closes nothing. -/
def readSetOpen (f : Flags) (s : List Char) : Option (Bool × List WrittenSet × List Char) := do
  let s := f.skip s
  let (negated, s) :=
    match s with
    | '^' :: rest => (true, f.skip rest)
    | s => (false, s)
  let (items, s) ← readLeadingMinus f [] s
  match items, f.skip s with
  | _, [] => none
  | [], ']' :: rest => return (negated, [⟨.single ']', 0⟩], rest)
  | items, s => return (negated, items, s)

/-- Reads a set up to the bracket that closes it. -/
def readSet (f : Flags) (negated : Bool) (pending : Option PendingSet) (items : List WrittenSet) :
    Nat → List Char → Option (WrittenSet × List Char)
  | 0, _ => none
  | bound + 1, s =>
    match f.skip s with
    | [] => none
    | ']' :: rest =>
      if negated && !f.standard then none
      else
        let inside := closeSet f pending items
        some (⟨f.finish negated inside.set, inside.depth + 1⟩, rest)
    | '&' :: '&' :: rest =>
      readSet f negated (some ⟨closeSet f pending items, .inter⟩) [] bound rest
    | '-' :: '-' :: rest =>
      readSet f negated (some ⟨closeSet f pending items, .minus⟩) [] bound rest
    | '~' :: '~' :: rest =>
      readSet f negated (some ⟨closeSet f pending items, .oneOf⟩) [] bound rest
    | '[' :: rest =>
      match readBracketClass f rest with
      | some (c, rest) => readSet f negated pending (⟨c, 0⟩ :: items) bound rest
      | none => do
        let (inner, first, rest) ← readSetOpen f rest
        let (c, rest) ← readSet f inner none first bound rest
        readSet f negated pending (c :: items) bound rest
    | s => do
      let (c, rest) ← readSetRange f s
      readSet f negated pending (c :: items) bound rest

end Reshape.Pattern
