import Formwork.Text.CategoryRuns
import Formwork.Text.DecimalDigit
import Formwork.Text.PropertyRanges
import Formwork.Text.ScriptRanges

/-!
# Character properties by name

Reads the tables of character data: a general category or a group of them, a
script, or a property that a character has or has not.  Names are compared
without case, blanks, hyphens and underscores, and without a leading "is".  The tables
are those of Unicode 15.0, but for the decimal digits, which are those of 16.0.
-/

namespace Formwork

/-- The number that hexadecimal digits stand for. -/
def hexValue (ds : List Char) : Nat :=
  ds.foldl (fun n c =>
    let d := if c.isDigit then c.toNat - 48 else if 'a' ≤ c then c.toNat - 87 else c.toNat - 55
    n * 16 + d) 0

/-- The parts of a text between the occurrences of a character. -/
def splitAtChar (mark : Char) : List Char → List (List Char)
  | [] => [[]]
  | c :: rest =>
    if c = mark then [] :: splitAtChar mark rest
    else match splitAtChar mark rest with
      | part :: parts => (c :: part) :: parts
      | [] => [[c]]

namespace CharClass

/-- A range in hexadecimal: one code point, or two joined by a hyphen. -/
def ofHexRange (token : List Char) : Nat × Nat :=
  match splitAtChar '-' token with
  | [a, b] => (hexValue a, hexValue b)
  | _ => (hexValue token, hexValue token)

/-- The ranges that one word of a table stands for: a range, or with a step after a plus
sign the code points that lie so far apart. -/
def ofHexWord (word : List Char) : CharClass :=
  match splitAtChar '+' word with
  | [range, step] =>
    let (first, last) := ofHexRange range
    (List.range ((last - first) / hexValue step + 1)).map fun i =>
      (first + i * hexValue step, first + i * hexValue step)
  | _ => [ofHexRange word]

/-- The class that lines of ranges in hexadecimal describe. -/
def ofHexLines (lines : List String) : CharClass :=
  lines.flatMap fun line => (splitAtChar ' ' line.toList).flatMap ofHexWord

/-- The runs of the wanted categories, the first run starting at `start`. -/
def ofRuns (wanted : List (List Char)) : Nat → List (List Char) → CharClass
  | _, [] => []
  | start, run :: rest =>
    let size := if run.length = 2 then 1 else Nat.ofDigitChars 10 (run.drop 2) 0
    let others := ofRuns wanted (start + size) rest
    if wanted.contains (run.take 2) then (start, start + size - 1) :: others else others

/-- The characters of any of these general categories, given by their abbreviations. -/
def ofCategories (wanted : List String) : CharClass :=
  normalize <| ofRuns (wanted.map String.toList) 0
    (categoryRuns.flatMap fun line => splitAtChar ' ' line.toList)

/-- The class that a table has under a name. -/
def ofTable? (table : List (List String × List String)) (name : String) : Option CharClass :=
  (table.find? fun row => row.1.contains name).map fun row => ofHexLines row.2

/-- A class of a property table that is known to be there. -/
def ofProperty (name : String) : CharClass := (ofTable? propertyRanges name).getD []

def alphabetic : CharClass :=
  union (ofCategories ["Lu", "Ll", "Lt", "Lm", "Lo", "Nl"]) (ofProperty "otheralphabetic")

def lowercase : CharClass := union (ofCategories ["Ll"]) (ofProperty "otherlowercase")

def uppercase : CharClass := union (ofCategories ["Lu"]) (ofProperty "otheruppercase")

/-- Letters of either case, and those of title case. -/
def cased : CharClass := normalize (lowercase ++ uppercase ++ ofCategories ["Lt"])

/-- Marks that extend the character before them. -/
def graphemeExtend : CharClass :=
  union (ofCategories ["Mn", "Me"]) (ofProperty "othergraphemeextend")

/-- Characters that a mark may extend. -/
def graphemeBase : CharClass :=
  difference (complement (ofCategories ["Cc", "Cf", "Cs", "Co", "Cn", "Zl", "Zp"])) graphemeExtend

/-- Punctuation within words: what stands between letters, and between letters or digits. -/
def midLetter : CharClass := ofHexLines ["3A B7 387 55F 5F4 2027 FE13 FE55 FF1A"]

def midNumLet : CharClass := ofHexLines ["2E 2018-2019 2024 FE52 FF07 FF0E"]

/-- Characters that case is not asked of. -/
def caseIgnorable : CharClass :=
  normalize (ofCategories ["Mn", "Me", "Cf", "Lm", "Sk"] ++ midLetter ++ midNumLet ++
    [(0x27, 0x27)])

/-- Characters that change when letters are put into one case or another. -/
def changesWhenCasemapped : CharClass :=
  normalize (["cwl", "cwt", "cwu"].flatMap ofProperty)

/-- Characters that identifiers start with, as a whole and after composition. -/
def idStart : CharClass :=
  let syntactic := union (ofProperty "patsyn") (ofProperty "patws")
  union (difference (ofCategories ["Lu", "Ll", "Lt", "Lm", "Lo", "Nl"]) syntactic)
    (ofProperty "otheridstart")

def xidStart : CharClass := difference idStart (ofProperty "otherthanxidstart")

/-- Characters that identifiers go on with. -/
def idContinue : CharClass :=
  normalize (idStart ++ ofCategories ["Mn", "Mc", "Pc"] ++ anyDigit ++ ofProperty "otheridcontinue")

def xidContinue : CharClass := difference idContinue (ofProperty "otherthanxidcontinue")

/-- The characters of words: letters, marks, decimal digits, connectors and joiners. -/
def word : CharClass :=
  normalize (alphabetic ++ ofCategories ["Mn", "Mc", "Me", "Pc"] ++ anyDigit ++ [(0x200C, 0x200D)])

/-- Letters and numbers of every kind. -/
def alphanumeric : CharClass := normalize (alphabetic ++ ofCategories ["No"] ++ anyDigit)

end CharClass

/-- A property name in the form in which names are compared. -/
def normalName (name : List Char) : List Char :=
  let plain (s : List Char) := (s.filter fun c =>
    c.toNat < 128 && c ≠ ' ' && c ≠ '_' && c ≠ '-').map Char.toLower
  match name with
  | i :: s :: rest =>
    if (i = 'i' || i = 'I') && (s = 's' || s = 'S') then
      if plain rest = ['c'] then 'i' :: 's' :: plain rest else plain rest
    else plain name
  | _ => plain name

/-- The names of the general categories and of their groups, each with the
categories it covers; half-pairs of surrogates are no characters. -/
def categoryNames : List (List String × List String) := [
  (["lu", "uppercaseletter"], ["Lu"]), (["ll", "lowercaseletter"], ["Ll"]),
  (["lt", "titlecaseletter"], ["Lt"]), (["lc", "casedletter"], ["Lu", "Ll", "Lt"]),
  (["lm", "modifierletter"], ["Lm"]), (["lo", "otherletter"], ["Lo"]),
  (["l", "letter"], ["Lu", "Ll", "Lt", "Lm", "Lo"]),
  (["mn", "nonspacingmark"], ["Mn"]), (["mc", "spacingmark"], ["Mc"]),
  (["me", "enclosingmark"], ["Me"]), (["m", "mark", "combiningmark"], ["Mn", "Mc", "Me"]),
  (["nl", "letternumber"], ["Nl"]), (["no", "othernumber"], ["No"]),
  (["pc", "connectorpunctuation"], ["Pc"]), (["pd", "dashpunctuation"], ["Pd"]),
  (["ps", "openpunctuation"], ["Ps"]), (["pe", "closepunctuation"], ["Pe"]),
  (["pi", "initialpunctuation"], ["Pi"]), (["pf", "finalpunctuation"], ["Pf"]),
  (["po", "otherpunctuation"], ["Po"]),
  (["p", "punctuation", "punct"], ["Pc", "Pd", "Ps", "Pe", "Pi", "Pf", "Po"]),
  (["sm", "mathsymbol"], ["Sm"]), (["sc", "currencysymbol"], ["Sc"]),
  (["sk", "modifiersymbol"], ["Sk"]), (["so", "othersymbol"], ["So"]),
  (["s", "symbol"], ["Sm", "Sc", "Sk", "So"]),
  (["zs", "spaceseparator"], ["Zs"]), (["zl", "lineseparator"], ["Zl"]),
  (["zp", "paragraphseparator"], ["Zp"]), (["z", "separator"], ["Zs", "Zl", "Zp"]),
  (["cc", "control", "cntrl"], ["Cc"]), (["cf", "format"], ["Cf"]),
  (["co", "privateuse"], ["Co"]), (["cn", "unassigned"], ["Cn"]),
  (["c", "other"], ["Cc", "Cf", "Co", "Cn"])]

namespace CharClass

/-- The class of a general category or a group of them. -/
def ofCategoryName? (name : String) : Option CharClass :=
  if name = "any" then some [(0, maxCodePoint)]
  else if name = "ascii" then some [(0, 127)]
  else if name = "assigned" then some (complement (ofCategories ["Cn"]))
  else if ["nd", "decimalnumber", "digit"].contains name then some anyDigit
  else if ["n", "number"].contains name then
    some (normalize (anyDigit ++ ofCategories ["Nl", "No"]))
  else (categoryNames.find? fun row => row.1.contains name).map fun row => ofCategories row.2

/-- The class of a property that a character has or has not. -/
def ofPropertyName? (name : String) : Option CharClass :=
  if ["alpha", "alphabetic"].contains name then some alphabetic
  else if ["lower", "lowercase"].contains name then some lowercase
  else if ["upper", "uppercase"].contains name then some uppercase
  else if name = "cased" then some cased
  else if ["ci", "caseignorable"].contains name then some caseIgnorable
  else if ["cwcm", "changeswhencasemapped"].contains name then some changesWhenCasemapped
  else if ["grbase", "graphemebase"].contains name then some graphemeBase
  else if ["grext", "graphemeextend"].contains name then some graphemeExtend
  else if ["ids", "idstart"].contains name then some idStart
  else if ["idc", "idcontinue"].contains name then some idContinue
  else if ["xids", "xidstart"].contains name then some xidStart
  else if ["xidc", "xidcontinue"].contains name then some xidContinue
  else if name.startsWith "other" then none
  else ofTable? propertyRanges name

/-- The class that a single name stands for: a property, a category or a script. -/
def ofName? (name : List Char) : Option CharClass :=
  let name := String.ofList (normalName name)
  (ofPropertyName? name).or ((ofCategoryName? name).or (ofTable? scriptRanges name))

end CharClass

end Formwork
