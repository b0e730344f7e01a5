import Reshape.Text.Blank

/-!
# Flags of patterns

Single letters switch how a pattern is read from some point on. This module holds the flags, their
written form, and the one flag that concerns the reading itself: blanks and comments that mean
nothing.
-/

namespace Reshape.Pattern

/-- The flags that hold at a point of a pattern. -/
structure Flags where
  /-- `i`: case is ignored. -/
  caseless : Bool
  /-- `m`: `^` and `$` hold at every line. -/
  lines : Bool
  /-- `s`: `.` holds line feeds too. -/
  dotAll : Bool
  /-- `R`: carriage returns end lines. -/
  returns : Bool
  /-- `u`: classes follow the character standard. -/
  standard : Bool
  /-- `x`: blanks and comments in the pattern mean nothing. -/
  spaced : Bool
  /-- `U`: repetitions are lazy unless they are marked. -/
  swapped : Bool

/-- The flags a pattern starts with. -/
def Flags.initial : Flags := ⟨false, false, false, false, true, false, false⟩

/-- The flags with one letter switched. -/
def Flags.set? (f : Flags) (letter : Char) (on : Bool) : Option Flags :=
  match letter with
  | 'i' => some { f with caseless := on }
  | 'm' => some { f with lines := on }
  | 's' => some { f with dotAll := on }
  | 'R' => some { f with returns := on }
  | 'u' => some { f with standard := on }
  | 'x' => some { f with spaced := on }
  | 'U' => some { f with swapped := on }
  | _ => none

/-- Drops a comment: everything up to the end of the line. -/
def dropComment : List Char → List Char
  | [] => []
  | '\n' :: rest => rest
  | _ :: rest => dropComment rest

/-- Drops blanks and comments at the front. The bound is the length of what is left. -/
def dropSpace : Nat → List Char → List Char
  | 0, s => s
  | bound + 1, s =>
    match s.dropWhile Text.isBlank with
    | '#' :: rest => dropSpace bound (dropComment rest)
    | s => s

/-- The rest of a pattern, blanks and comments at its front dropped when the flags say so. -/
def Flags.skip (f : Flags) (s : List Char) : List Char :=
  if f.spaced then dropSpace (s.length + 1) s else s

/-- Reads flag letters up to `:` or `)`. A minus switches the letters behind it off; a letter
twice, a minus twice and a minus at the end are refused. Returns the flags, whether there was a
letter or minus, and the closing character with what follows it. -/
def readFlags (f : Flags) (seen : List Char) : List Char → Option (Flags × Bool × List Char)
  | [] => none
  | c :: rest =>
    if c == ':' || c == ')' then
      if seen.head? == some '-' then none else some (f, !seen.isEmpty, c :: rest)
    else if seen.contains c then none
    else if c == '-' then readFlags f (c :: seen) rest
    else do readFlags (← f.set? c (!seen.contains '-')) (c :: seen) rest

end Reshape.Pattern
