import Reshape.Pattern.Classes

/-!
# Character classes by name

The names by which patterns reach the properties of the character standard (general categories,
scripts, alphabetic characters and the like) and the ASCII classes of bracket expressions. Case,
blanks, lines and underscores do not count in the name of a property, and neither does `is` in
front of it.

The list of properties is not the whole standard: emoji, mathematical characters, the characters of
identifiers, ages and the kinds of breaks have no class here and are refused like a misspelt name,
and a character has the one script that it mostly belongs to. Other engines may know more; see
`PatternEngine`.
-/

namespace Reshape.Pattern

/-- The form in which names of properties are compared: lower case, without blanks, lines and the
word `is` in front. -/
def plainName (name : String) : String :=
  let s := name.toList
  let s :=
    match s with
    | a :: b :: rest => if a.toLower == 'i' && b.toLower == 's' then rest else s
    | _ => s
  String.ofList ((s.filter fun c => c.toNat < 128 && c != ' ' && c != '_' && c != '-').map
    Char.toLower)

/-- General categories and their groups: the names, and the codes they stand for. -/
def categoryNames : List (List String × List String) := [
  (["c", "other"], ["Cc", "Cf", "Cn", "Co"]),
  (["cc", "control", "cntrl"], ["Cc"]), (["cf", "format"], ["Cf"]),
  (["cn", "unassigned"], ["Cn"]), (["co", "privateuse"], ["Co"]),
  (["l", "letter"], ["Lu", "Ll", "Lt", "Lm", "Lo"]),
  (["lc", "casedletter"], ["Lu", "Ll", "Lt"]), (["ll", "lowercaseletter"], ["Ll"]),
  (["lm", "modifierletter"], ["Lm"]), (["lo", "otherletter"], ["Lo"]),
  (["lt", "titlecaseletter"], ["Lt"]), (["lu", "uppercaseletter"], ["Lu"]),
  (["m", "mark", "combiningmark"], ["Mn", "Mc", "Me"]), (["mc", "spacingmark"], ["Mc"]),
  (["me", "enclosingmark"], ["Me"]), (["mn", "nonspacingmark"], ["Mn"]),
  (["n", "number"], ["Nd", "Nl", "No"]), (["nd", "decimalnumber", "digit"], ["Nd"]),
  (["nl", "letternumber"], ["Nl"]), (["no", "othernumber"], ["No"]),
  (["p", "punctuation", "punct"], ["Pc", "Pd", "Ps", "Pe", "Pi", "Pf", "Po"]),
  (["pc", "connectorpunctuation"], ["Pc"]), (["pd", "dashpunctuation"], ["Pd"]),
  (["pe", "closepunctuation"], ["Pe"]), (["pf", "finalpunctuation"], ["Pf"]),
  (["pi", "initialpunctuation"], ["Pi"]), (["po", "otherpunctuation"], ["Po"]),
  (["ps", "openpunctuation"], ["Ps"]), (["s", "symbol"], ["Sm", "Sc", "Sk", "So"]),
  (["sc", "currencysymbol"], ["Sc"]), (["sk", "modifiersymbol"], ["Sk"]),
  (["sm", "mathsymbol"], ["Sm"]), (["so", "othersymbol"], ["So"]),
  (["z", "separator"], ["Zs", "Zl", "Zp"]), (["zl", "lineseparator"], ["Zl"]),
  (["zp", "paragraphseparator"], ["Zp"]), (["zs", "spaceseparator"], ["Zs"])]

/-- The class of a general category in its plain name. -/
def categoryClass? (name : String) : Option CharSet :=
  if name == "any" then some .all
  else if name == "ascii" then some .ascii
  else if name == "assigned" then some (CharSet.ofCategories ["Cn"]).complement
  else (categoryNames.find? (·.1.contains name)).map fun entry => .ofCategories entry.2

/-- The class of a script in its plain name or code. -/
def scriptClass? (name : String) : Option CharSet :=
  (scriptNames.find? fun entry => plainName entry.1 == name || plainName entry.2 == name).map
    fun entry => .ofScript entry.1

/-- The class of a property that characters have or lack. -/
def binaryClass? (name : String) : Option CharSet :=
  if ["alpha", "alphabetic"].contains name then some .alphabetic
  else if ["space", "whitespace", "wspace"].contains name then some .blank
  else if name == "cased" then some .cased
  else if ["ci", "caseignorable"].contains name then some .caseIgnorable
  else if ["lower", "lowercase"].contains name then some .lower
  else if ["upper", "uppercase"].contains name then some .upper
  else none

/-- The class that the text between the braces of `\p` names. -/
def propertyClass? (text : String) : Option CharSet :=
  let byValue (property value : String) : Option CharSet :=
    let property := plainName property
    if ["gc", "generalcategory"].contains property then categoryClass? (plainName value)
    else if ["sc", "script", "scx", "scriptextensions"].contains property then
      scriptClass? (plainName value)
    else none
  match text.splitOn "!=" with
  | [property, value] => (byValue property value).map CharSet.complement
  | _ =>
    match text.splitOn ":", text.splitOn "=" with
    | [property, value], _ => byValue property value
    | _, [property, value] => byValue property value
    | _, _ =>
      let name := plainName text
      ((binaryClass? name).or (categoryClass? name)).or (scriptClass? name)

/-- The ASCII classes that stand in `[:` and `:]`. -/
def bracketClass? (name : String) : Option CharSet :=
  match name with
  | "alnum" => some (.ofPairs [('0', '9'), ('A', 'Z'), ('a', 'z')])
  | "alpha" => some (.ofPairs [('A', 'Z'), ('a', 'z')])
  | "ascii" => some .ascii
  | "blank" => some (.ofPairs [('\t', '\t'), (' ', ' ')])
  | "cntrl" => some (.ofPairs [('\x00', '\x1f'), ('\x7f', '\x7f')])
  | "digit" => some .asciiDigit
  | "graph" => some (.range '!' '~')
  | "lower" => some (.range 'a' 'z')
  | "print" => some (.range ' ' '~')
  | "punct" => some (.ofPairs [('!', '/'), (':', '@'), ('[', '\x60'), ('\x7b', '~')])
  | "space" => some .asciiBlank
  | "upper" => some (.range 'A' 'Z')
  | "word" => some .asciiWord
  | "xdigit" => some (.ofPairs [('0', '9'), ('A', 'F'), ('a', 'f')])
  | _ => none

end Reshape.Pattern
