import Reshape.Pattern.Basic

/-!
# Whether a pattern matches in a text

A text of `n` characters has `n + 1` places. A set of places is a natural number whose bit `i` says
whether place `i` belongs to it. Over a given text a pattern becomes a `Walk`, in which every set of
characters and every anchor is replaced by the places where it holds. `Walk.advance` takes the set
of places where a match may begin to the set of places where it may end, and it commutes with
unions, so

* a character keeps the places in front of it and moves them one ahead in the text;
* an anchor keeps the places that satisfy it;
* a repetition goes on until a further round changes nothing. A walk never goes back, so after as
  many rounds as there are places every further round leaves the set as it is.

A pattern matches somewhere in the text exactly when the image of all places is not empty.
-/

namespace Reshape

/-- The set of places before the characters that satisfy `test`. -/
def placesBefore (test : Char → Bool) : List Char → Nat
  | [] => 0
  | c :: cs => (if test c then 1 else 0) + 2 * placesBefore test cs

/-- All places of a text. -/
def allPlaces (text : List Char) : Nat := 1 <<< (text.length + 1) - 1

/-- The last place of a text. -/
def lastPlace (text : List Char) : Nat := 1 <<< text.length

/-- The places of a set that are not in another one. -/
def placesWithout (a b : Nat) : Nat := a &&& (a ^^^ b)

/-- The places where a condition holds. -/
def Anchor.places (text : List Char) : Anchor → Nat
  | .textStart => 1
  | .textEnd => lastPlace text
  | .lineStart false => 1 ||| (placesBefore (· == '\n') text) <<< 1
  | .lineEnd false => lastPlace text ||| placesBefore (· == '\n') text
  | .lineStart true =>
    let feeds := placesBefore (· == '\n') text
    let returns := placesBefore (· == '\r') text
    1 ||| feeds <<< 1 ||| placesWithout (returns <<< 1) feeds
  | .lineEnd true =>
    let feeds := placesBefore (· == '\n') text
    let returns := placesBefore (· == '\r') text
    lastPlace text ||| returns ||| placesWithout feeds (returns <<< 1)
  | .word edge ascii =>
    let next := placesBefore (if ascii then CharSet.asciiWord.has else CharSet.word.has) text
    let previous := next <<< 1
    match edge with
    | .boundary => next ^^^ previous
    | .noBoundary => placesWithout (allPlaces text) (next ^^^ previous)
    | .start => placesWithout next previous
    | .finish => placesWithout previous next
    | .openBefore => placesWithout (allPlaces text) previous
    | .openAfter => placesWithout (allPlaces text) next

/-- A pattern over a given text. -/
inductive Walk where
  /-- One character ahead, from some places. -/
  | cross (places : Nat)
  /-- Stay, at some places. -/
  | stay (places : Nat)
  | sequence (parts : List Walk)
  | choice (options : List Walk)
  | repetition (w : Walk) (least : Nat) (most : Option Nat)

mutual

/-- A pattern over a text. -/
def Pattern.walk (text : List Char) : Pattern → Walk
  | .empty => .sequence []
  | .literal cs => .sequence (cs.map fun c => .cross (placesBefore (· == c) text))
  | .set s _ => .cross (placesBefore s.has text)
  | .anchor a => .stay (a.places text)
  | .group _ p => p.walk text
  | .sequence parts => .sequence (walks text parts)
  | .choice options => .choice (walks text options)
  | .repetition p least most _ => .repetition (p.walk text) least most

/-- Some patterns over a text. -/
def Pattern.walks (text : List Char) : List Pattern → List Walk
  | [] => []
  | p :: ps => p.walk text :: Pattern.walks text ps

end

/-- The image of a set under `count` rounds of `step`, stopping early when a round changes nothing.
-/
def rounds (step : Nat → Nat) : Nat → Nat → Nat
  | 0, places => places
  | count + 1, places =>
    let next := step places
    if next = places then places else rounds step count next

/-- The places reached within `count` rounds of `step`, stopping early when a round adds none. -/
def within (step : Nat → Nat) : Nat → Nat → Nat
  | 0, places => places
  | count + 1, places =>
    let more := places ||| step places
    if more = places then places else within step count more

namespace Walk

mutual

/-- The places where a walk may end that begins at one of `places`, in a text with `length` places.
-/
def advance (length : Nat) : Walk → Nat → Nat
  | .cross starts, places => (places &&& starts) <<< 1
  | .stay holds, places => places &&& holds
  | .sequence parts, places => advanceAll length parts places
  | .choice options, places => advanceAny length options places
  | .repetition w least most, places =>
    let step := advance length w
    within step (most.elim length (· - least)) (rounds step least places)

/-- One part after the other. -/
def advanceAll (length : Nat) : List Walk → Nat → Nat
  | [], places => places
  | w :: ws, places => advanceAll length ws (advance length w places)

/-- The union over all options. -/
def advanceAny (length : Nat) : List Walk → Nat → Nat
  | [], _ => 0
  | w :: ws, places => advance length w places ||| advanceAny length ws places

end

end Walk

/-- Whether a pattern matches somewhere in a text. -/
def Pattern.isMatch (p : Pattern) (text : String) : Bool :=
  let text := text.toList
  (p.walk text).advance (text.length + 1) (allPlaces text) != 0

end Reshape
