import Reshape.Pattern.Basic
import Reshape.Pattern.Flags
import Reshape.Pattern.Property

/-!
# Escapes

What a backslash and the characters behind it stand for: one character, a class of characters, or a
place between characters. An escape without a meaning is refused, so that it can be given one
later; among them are references to groups.
-/

namespace Reshape.Pattern

/-- One item of a pattern or of a class in brackets. -/
inductive Item where
  | literal (c : Char)
  | set (c : CharSet)
  | anchor (a : Anchor)

/-- A class with case ignored if the flags say so, then negated if asked. -/
def Flags.finish (f : Flags) (negated : Bool) (c : CharSet) : CharSet :=
  let c := if !f.caseless then c else if f.standard then c.folded else c.asciiFolded
  if negated then c.complement else c

def hexDigit? (c : Char) : Option Nat :=
  if c.isDigit then some (c.toNat - '0'.toNat)
  else if 'a' ≤ c && c ≤ 'f' then some (c.toNat - 'a'.toNat + 10)
  else if 'A' ≤ c && c ≤ 'F' then some (c.toNat - 'A'.toNat + 10)
  else none

def scalarItem? (n : Nat) : Option Item :=
  if n.isValidChar then some (.literal (Char.ofNat n)) else none

/-- Reads exactly `count` hexadecimal digits. -/
def readHex (f : Flags) (value : Nat) : Nat → List Char → Option (Nat × List Char)
  | 0, s => some (value, s)
  | count + 1, s =>
    match f.skip s with
    | c :: rest => (hexDigit? c).bind fun d => readHex f (value * 16 + d) count rest
    | [] => none

/-- The text up to a closing brace and what follows it. -/
def readBraced (s : List Char) : Option (List Char × List Char) :=
  match s.span (· != '\x7d') with
  | (inside, _ :: rest) => some (inside, rest)
  | (_, []) => none

/-- A code point in hexadecimal, with a fixed number of digits or in braces. Without the standard's
classes two digits stand for a byte, and one that is no ASCII character is refused. -/
def readScalar (f : Flags) (count : Nat) (s : List Char) : Option (Item × List Char) :=
  match f.skip s with
  | '\x7b' :: rest => do
    let (inside, rest) ← readBraced rest
    let digits ← (if f.spaced then inside.filter (!Text.isBlank ·) else inside).mapM hexDigit?
    if digits.isEmpty then none
    else return (← scalarItem? (digits.foldl (fun n d => 16 * n + d) 0), rest)
  | s => do
    let (n, rest) ← readHex f 0 count s
    if count = 2 && !f.standard && 128 ≤ n then none else return (← scalarItem? n, rest)

/-- A class named by a property, one letter or a name in braces. -/
def readProperty (f : Flags) (negated : Bool) (s : List Char) : Option (Item × List Char) := do
  if !f.standard then none
  else
    match f.skip s with
    | '\x7b' :: rest =>
      let (inside, rest) ← readBraced rest
      let c ← propertyClass? (String.ofList inside)
      return (.set (f.finish negated c), rest)
    | '\\' :: _ => none
    | letter :: rest =>
      let c ← propertyClass? (String.ofList [letter])
      return (.set (f.finish negated c), rest)
    | [] => none

/-- The class of digits, blanks or word characters. Without the standard's classes a negated one
could split a character and is refused. -/
def namedClass? (f : Flags) (negated : Bool) (standard ascii : CharSet) : Option Item :=
  if f.standard then some (.set (if negated then standard.complement else standard))
  else if negated then none
  else some (.set ascii)

/-- The part of a word edge in braces behind `\b`, if it is one: braces that begin with anything
but a letter or a minus are left for a repetition. -/
def readWordEdge (f : Flags) (s : List Char) : Option (WordEdge × List Char) :=
  match s with
  | '\x7b' :: rest =>
    match f.skip rest with
    | [] => none
    | c :: _ =>
      if !(c.isAlpha || c == '-') then some (.boundary, s)
      else do
        let (inside, rest) ← readBraced (f.skip rest)
        match String.ofList inside with
        | "start" => return (.start, rest)
        | "end" => return (.finish, rest)
        | "start-half" => return (.openBefore, rest)
        | "end-half" => return (.openAfter, rest)
        | _ => none
  | _ => some (.boundary, s)

/-- Whether a backslash before an ASCII character gives the character itself: everything but
letters, digits and the two angle brackets. -/
def isEscapable (c : Char) : Bool :=
  c.toNat < 128 && !c.isAlphanum && c != '<' && c != '>'

/-- Reads what follows a backslash. -/
def readEscape (f : Flags) : List Char → Option (Item × List Char)
  | [] => none
  | c :: rest =>
    match c with
    | 'x' => readScalar f 2 rest
    | 'u' => readScalar f 4 rest
    | 'U' => readScalar f 8 rest
    | 'p' => readProperty f false rest
    | 'P' => readProperty f true rest
    | 'd' => (namedClass? f false .digit .asciiDigit).map (·, rest)
    | 'D' => (namedClass? f true .digit .asciiDigit).map (·, rest)
    | 's' => (namedClass? f false .blank .asciiBlank).map (·, rest)
    | 'S' => (namedClass? f true .blank .asciiBlank).map (·, rest)
    | 'w' => (namedClass? f false .word .asciiWord).map (·, rest)
    | 'W' => (namedClass? f true .word .asciiWord).map (·, rest)
    | 'a' => some (.literal '\x07', rest)
    | 'f' => some (.literal '\x0c', rest)
    | 't' => some (.literal '\t', rest)
    | 'n' => some (.literal '\n', rest)
    | 'r' => some (.literal '\r', rest)
    | 'v' => some (.literal '\x0b', rest)
    | 'A' => some (.anchor .textStart, rest)
    | 'z' => some (.anchor .textEnd, rest)
    | 'b' => (readWordEdge f rest).map fun (edge, rest) =>
        (.anchor (.word edge (!f.standard)), rest)
    | 'B' => some (.anchor (.word .noBoundary (!f.standard)), rest)
    | '<' => some (.anchor (.word .start (!f.standard)), rest)
    | '>' => some (.anchor (.word .finish (!f.standard)), rest)
    | c => if isEscapable c then some (.literal c, rest) else none

end Reshape.Pattern
