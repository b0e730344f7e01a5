import Reshape.Pattern.Brackets
import Reshape.Pattern.Size

/-!
# Reading patterns

`Pattern.parse?` reads the written form of a pattern: alternatives divided by `|`, groups in
parentheses, classes in brackets, the repetitions `*`, `+`, `?` and `{m,n}` (a further `?` makes
them lazy), the anchors `^` and `$`, and escapes. Groups may carry a name or flags, and flags may
stand by themselves and then hold to the end of the group around them.

Look-around, references to groups, escapes without a meaning, brackets without a partner and
repetitions of nothing are refused: then there is no pattern. `.` holds every character but the
line feed; `\d`, `\s`, `\w` and word edges follow the character standard, not ASCII, unless the
flag `u` is switched off. A pattern that is written too deep or would need too much is refused too.
-/

namespace Reshape.Pattern

/-! ## Repetitions -/

/-- Reads digits; the flags may allow blanks between them. -/
def readDigits (f : Flags) (value : Nat) : Nat → List Char → Nat × List Char
  | 0, s => (value, s)
  | bound + 1, s =>
    match f.skip s with
    | c :: rest =>
      if c.isDigit then readDigits f (10 * value + (c.toNat - '0'.toNat)) bound rest
      else (value, c :: rest)
    | [] => (value, [])

/-- A number of repetitions, blanks around it allowed; it must fit in 32 bits. -/
def readCount (f : Flags) (s : List Char) : Option (Nat × List Char) :=
  match f.skip (s.dropWhile Text.isBlank) with
  | [] => none
  | c :: rest =>
    if !c.isDigit then none
    else
      let (n, rest) := readDigits f 0 (rest.length + 1) (c :: rest)
      if 0x100000000 ≤ n then none else some (n, f.skip (rest.dropWhile Text.isBlank))

/-- The bounds behind an opening brace: `n`, `n,` or `n,m`, and the closing brace. -/
def readBounds (f : Flags) (s : List Char) : Option (Nat × Option Nat × List Char) := do
  let (least, rest) ← readCount f (f.skip s)
  match rest with
  | '\x7d' :: rest => return (least, some least, rest)
  | ',' :: rest =>
    match f.skip rest with
    | '\x7d' :: rest => return (least, none, rest)
    | rest =>
      let (most, rest) ← readCount f rest
      match rest with
      | '\x7d' :: rest => if least ≤ most then return (least, some most, rest) else none
      | _ => none
  | _ => none

/-- Reads the mark behind a repetition that turns its greed around. -/
def readGreed (f : Flags) : List Char → Bool × List Char
  | '?' :: rest => (f.swapped, rest)
  | s => (!f.swapped, s)

/-! ## Groups and whole patterns -/

/-- The point a reader has reached: what is left, the flags, the number of groups that can be
referred to, and the names given to some of them. -/
structure Point where
  rest : List Char
  flags : Flags
  groups : Nat
  names : List String

/-- The parts of a sequence, last first. Flags by themselves are an empty part. -/
abbrev Items := List Pattern

/-- The sequence of some items. -/
def sequenceOf (items : Items) : Pattern := ofParts items.reverse

/-- The last item with a repetition around it; flags cannot be repeated. -/
def repeatLast? (least : Nat) (most : Option Nat) (greedy : Bool) : Items → Option Items
  | .empty :: _ => none
  | p :: items => some (.repetition p least most greedy :: items)
  | [] => none

def Item.toPattern (f : Flags) : Item → Pattern
  | .literal c => if f.caseless then .set (f.finish false (.single c)) 0 else .literal [c]
  | .set c => .set c 0
  | .anchor a => .anchor a

/-- The set of `.`; without the standard's classes it could split a character and is refused. -/
def dotSet? (f : Flags) : Option CharSet :=
  if !f.standard then none
  else if f.dotAll then some .all
  else if f.returns then some (CharSet.ofPairs [('\n', '\n'), ('\r', '\r')]).complement
  else some (CharSet.single '\n').complement

def isNameChar (first : Bool) (c : Char) : Bool :=
  c == '_' || CharSet.alphabetic.has c ||
    (!first && (c == '.' || c == '[' || c == ']' || CharSet.alphanumeric.has c))

/-- The name of a group up to its closing bracket. -/
def readName (s : List Char) : Option (String × List Char) :=
  match s.span (· != '>') with
  | (c :: cs, _ :: rest) =>
    if isNameChar true c && cs.all (isNameChar false) then some (String.ofList (c :: cs), rest)
    else none
  | _ => none

/-- What stands behind an opening parenthesis. -/
inductive GroupOpen where
  /-- Flags for the rest of the group around. -/
  | flags (p : Point)
  /-- A group of its own, with its index if it can be referred to. -/
  | group (index : Option Nat) (p : Point)

/-- Reads the start of a group. Look-around is refused. -/
def readGroupOpen (p : Point) : Option GroupOpen :=
  let indexed (names : List String) (rest : List Char) : GroupOpen :=
    .group (some (p.groups + 1)) { p with rest := rest, groups := p.groups + 1, names := names }
  let named (s : List Char) : Option GroupOpen := do
    let (name, rest) ← readName s
    if p.names.contains name then none else return indexed (name :: p.names) rest
  match p.flags.skip p.rest with
  | '?' :: '=' :: _ | '?' :: '!' :: _ | '?' :: '<' :: '=' :: _ | '?' :: '<' :: '!' :: _ => none
  | '?' :: 'P' :: '<' :: rest => named rest
  | '?' :: '<' :: rest => named rest
  | '?' :: rest => do
    let (flags, any, rest) ← readFlags p.flags [] rest
    match rest with
    | ')' :: rest => if any then return .flags { p with rest := rest, flags := flags } else none
    | _ :: rest => return .group none { p with rest := rest, flags := flags }
    | [] => none
  | rest => some (indexed p.names rest)

/-- Reads alternatives up to a closing parenthesis or the end, which is left. `options` and `items`
hold what was read before, last first. -/
def readOptions (options : List Pattern) (items : Items) :
    Nat → Point → Option (Pattern × Point)
  | 0, _ => none
  | bound + 1, p =>
    let go (items : Items) (rest : List Char) : Option (Pattern × Point) :=
      readOptions options items bound { p with rest := rest }
    let repeated (least : Nat) (most : Option Nat) (rest : List Char) :
        Option (Pattern × Point) := do
      let (greedy, rest) := readGreed p.flags rest
      go (← repeatLast? least most greedy items) rest
    match p.flags.skip p.rest with
    | [] => some (ofOptions (sequenceOf items :: options).reverse, { p with rest := [] })
    | ')' :: rest =>
      some (ofOptions (sequenceOf items :: options).reverse, { p with rest := ')' :: rest })
    | '|' :: rest => readOptions (sequenceOf items :: options) [] bound { p with rest := rest }
    | '(' :: rest => do
      match ← readGroupOpen { p with rest := rest } with
      | .flags q => readOptions options (.empty :: items) bound q
      | .group index q =>
        let (inside, q) ← readOptions [] [] bound q
        match q.rest with
        | ')' :: rest =>
          readOptions options (.group index inside :: items) bound
            { q with rest := rest, flags := p.flags }
        | _ => none
    | '[' :: rest => do
      let (negated, first, rest) ← readSetOpen p.flags rest
      let (c, rest) ← readSet p.flags negated none first bound rest
      go (.set c.set c.depth :: items) rest
    | '*' :: rest => repeated 0 none rest
    | '+' :: rest => repeated 1 none rest
    | '?' :: rest => repeated 0 (some 1) rest
    | '\x7b' :: rest => do
      let (least, most, rest) ← readBounds p.flags rest
      repeated least most (p.flags.skip rest)
    | '\\' :: rest => do
      let (item, rest) ← readEscape p.flags rest
      go (item.toPattern p.flags :: items) rest
    | '.' :: rest => do go (.set (← dotSet? p.flags) 0 :: items) rest
    | '^' :: rest =>
      let a := if p.flags.lines then Anchor.lineStart p.flags.returns else .textStart
      go (.anchor a :: items) rest
    | '$' :: rest =>
      let a := if p.flags.lines then Anchor.lineEnd p.flags.returns else .textEnd
      go (.anchor a :: items) rest
    | c :: rest => go (Item.toPattern p.flags (.literal c) :: items) rest

/-- The pattern a text writes, whatever it needs; none when the text is no pattern. -/
def read? (text : String) : Option Pattern :=
  let s := text.toList
  match readOptions [] [] (2 * s.length + 2) ⟨s, .initial, 0, []⟩ with
  | some (p, ⟨[], _, _, _⟩) => some p
  | _ => none

/-- The greatest depth a pattern may be written with. -/
def nestingLimit : Nat := 250

/-- The pattern a text writes; none when the text is no pattern or the pattern breaks a limit. -/
def parse? (text : String) : Option Pattern :=
  (read? text).filter fun p => p.nesting ≤ nestingLimit && p.fits

end Reshape.Pattern
