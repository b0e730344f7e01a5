import Reshape.Binary64.Shortest
import Reshape.Query.Syntax
import Reshape.Text.CodePoints
import Reshape.Text.HiddenTable

/-!
# Predicates as trees in text

The text of a predicate that shows its tree: every node by the name of its form and what it holds
in brackets, as in `Any([Equals(Integer(2))])`. A message falls back on it for a predicate that was
built as a tree and so has no written form to quote.
-/

namespace Reshape

namespace TreeText

/-- Whether a character stands for itself inside quotes. -/
def isShown (c : Char) : Bool := !Text.inRanges Text.hiddenRanges c.toNat

/-- A character inside quotes; one that would not show is given by its code point. -/
def character (c : Char) : List Char :=
  match c with
  | '"' => ['\\', '"']
  | '\\' => ['\\', '\\']
  | '\n' => ['\\', 'n']
  | '\r' => ['\\', 'r']
  | '\t' => ['\\', 't']
  | '\x00' => ['\\', '0']
  | c =>
    if isShown c then [c]
    else '\\' :: 'u' :: '\x7b' :: Nat.toDigits 16 c.toNat ++ ['\x7d']

def quoted (s : String) : String := String.ofList ('"' :: s.toList.flatMap character ++ ['"'])

def listed (parts : List String) : String := "[" ++ String.intercalate ", " parts ++ "]"

mutual

/-- The tree of a value. -/
def value : Value → String
  | .null => "Null"
  | .bool b => "Boolean(" ++ toString b ++ ")"
  | .int n => "Integer(" ++ toString n.toInt ++ ")"
  | .float x => "Float(" ++ Binary64.structuralText x ++ ")"
  | .string s => "String(" ++ quoted s ++ ")"
  | .array items => "Array(" ++ listed (values items) ++ ")"
  | .object fields => "Object(\x7b" ++ String.intercalate ", " (fieldTexts fields) ++ "\x7d)"

def values : List Value → List String
  | [] => []
  | v :: vs => value v :: values vs

def fieldTexts : List (String × Value) → List String
  | [] => []
  | (name, v) :: fields => (quoted name ++ ": " ++ value v) :: fieldTexts fields

end

mutual

/-- The tree of a predicate. -/
def predicate : Predicate → String
  | .equals v => "Equals(" ++ value v ++ ")"
  | .all entries => "All(" ++ listed (entryTexts entries) ++ ")"
  | .any alternatives => "Any(" ++ listed (predicates alternatives) ++ ")"

def predicates : List Predicate → List String
  | [] => []
  | p :: ps => predicate p :: predicates ps

def entryTexts : List (String × Predicate) → List String
  | [] => []
  | (key, p) :: entries => ("(" ++ quoted key ++ ", " ++ predicate p ++ ")") :: entryTexts entries

end

end TreeText

end Reshape
