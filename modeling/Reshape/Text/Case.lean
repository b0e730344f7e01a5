import Reshape.Text.CaseTable

/-!
# Upper and lower case of texts

Case mapping by the full rules of the character standard: a character can become several (`ß` is
`SS` in upper case), and the lower case of a capital sigma depends on its surroundings. It is the
final form `ς` when a cased character comes before it and none after it, where characters that the
rule ignores, such as accents and apostrophes, are looked past on both sides.
-/

namespace Reshape.Text

def isCased (c : Char) : Bool := inRanges casedRanges c.toNat

def isCaseIgnorable (c : Char) : Bool := inRanges caseIgnorableRanges c.toNat

/-- A character mapped by a table of expansions and shifts. -/
def mapCase (expansions : List (Nat × List Nat)) (shifts : List Shift) (c : Char) : List Char :=
  match expansions.lookup c.toNat with
  | some cs => cs.map Char.ofNat
  | none => [Char.ofNat (shifted shifts c.toNat)]

def upperChar (c : Char) : List Char := mapCase upperExpansions upperShifts c

/-- The lower case of a character on its own. -/
def lowerChar (c : Char) : List Char := mapCase lowerExpansions lowerShifts c

/-- Whether the first character the sigma rule does not ignore is cased. -/
def casedAhead (s : List Char) : Bool :=
  match s.dropWhile isCaseIgnorable with
  | c :: _ => isCased c
  | [] => false

/-- The text in lower case; `before` holds the characters in front, nearest first. -/
def lowerChars (before : List Char) : List Char → List Char
  | [] => []
  | c :: rest =>
    let mapped :=
      if c == 'Σ' then [if casedAhead before && !casedAhead rest then 'ς' else 'σ']
      else lowerChar c
    mapped ++ lowerChars (c :: before) rest

/-- The text in upper case. -/
def upper (s : String) : String := String.ofList (s.toList.flatMap upperChar)

/-- The text in lower case. -/
def lower (s : String) : String := String.ofList (lowerChars [] s.toList)

example : upper "straße" = "STRASSE" := by decide +kernel

example : lower "ΟΔΟΣ ΣΑΣ" = "οδος σας" := by decide +kernel

end Reshape.Text
