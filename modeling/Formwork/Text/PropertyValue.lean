import Formwork.Text.AgeRanges
import Formwork.Text.Property
import Formwork.Text.ScriptExtensionRanges

/-!
# Character properties by value

A class can be asked for by a property and one of its values: the general category, the
script, the scripts that a character is used with, the version of Unicode in which it was
assigned, and its part in the rules by which text is broken into characters, words and
sentences.

The ages go up to version 15.0.  A value that only says "anything else" has no class.
-/

namespace Formwork

namespace CharClass

/-- The lines of a table up to and including the row with a name. -/
def linesUpTo? (name : String) : List (List String × List String) → Option (List String)
  | [] => none
  | (names, lines) :: rest =>
    if names.contains name then some lines else (linesUpTo? name rest).map (lines ++ ·)

/-- The characters that were assigned in a version of Unicode or before. -/
def ofAge? (version : String) : Option CharClass :=
  (linesUpTo? version ageRanges).map fun lines => normalize (ofHexLines lines)

/-- The characters that are used with a script.  Those that belong to no one script are
left to the scripts that share them. -/
def ofScriptExtension? (script : String) : Option CharClass :=
  (ofTable? scriptRanges script).map fun own =>
    if ["zyyy", "common", "zinh", "inherited", "qaai"].contains script then
      own.difference (normalize (scriptExtensionRanges.flatMap fun row => ofHexLines row.2))
    else own.union ((ofTable? scriptExtensionRanges script).getD [])

/-! ## Breaks in text -/

/-- Tags, which follow a character and change how it is shown. -/
def tags : CharClass := [(0xE0020, 0xE007F)]

/-- Marks, and what else extends the character before it within a word. -/
def wordExtend : CharClass :=
  normalize (graphemeExtend ++ ofCategories ["Mc"] ++ ofProperty "emod")

/-- Syllables of Hangul: those of two letters are the first of every 28. -/
def hangulOpenSyllables : CharClass :=
  (List.range 399).map fun i => (0xAC00 + 28 * i, 0xAC00 + 28 * i)

def hangulClosedSyllables : CharClass := difference [(0xAC00, 0xD7A3)] hangulOpenSyllables

/-- Letters of Hebrew. -/
def hebrewLetter : CharClass :=
  intersection ((ofTable? scriptRanges "hebr").getD []) (ofCategories ["Lo"])

/-- Katakana and its marks. -/
def wordKatakana : CharClass := ofHexLines [
  "3031-3035 309B-309C 30A0-30FA 30FC-30FF 31F0-31FF 32D0-32FE 3300-3357 FF66-FF9D 1AFF0-1AFF3",
  "1AFF5-1AFFB 1AFFD-1AFFE 1B000 1B120-1B122 1B155 1B164-1B167"]

/-- Letters of scripts that are written without breaks between words. -/
def unbrokenLetters : CharClass := ofHexLines [
  "E01-E30 E32-E33 E40-E46 E81-E82 E84 E86-E8A E8C-EA3 EA5 EA7-EB0 EB2-EB3 EBD EC0-EC4 EC6",
  "EDC-EDF 1000-102A 103F 1050-1055 105A-105D 1061 1065-1066 106E-1070 1075-1081 108E 1780-17B3",
  "17D7 17DC 1950-196D 1970-1974 1980-19AB 19B0-19C9 1A20-1A54 1AA7 A9E0-A9E4 A9E6-A9EF A9FA-A9FE",
  "AA60-AA76 AA7A AA7E-AAAF AAB1 AAB5-AAB6 AAB9-AABD AAC0 AAC2 AADB-AADD 11700-1171A 11740-11746"]

/-- Characters that count as letters of words although they are none. -/
def furtherWordLetters : CharClass := ofHexLines [
  "2C2-2C5 2D2-2D7 2DE-2DF 2E5-2EB 2ED 2EF-2FF 55A-55C 55E 58A 5F3 A708-A716 A720-A721",
  "A789-A78A AB5B"]

/-- Letters of words, outside the scripts with rules of their own. -/
def wordLetter : CharClass :=
  let apart := normalize <| ofProperty "ideo" ++ wordKatakana ++
    (ofTable? scriptRanges "hira").getD [] ++ wordExtend ++ hebrewLetter ++ unbrokenLetters
  union (difference alphabetic apart) furtherWordLetters

/-- Letters of Georgian that have a case but start no sentence by it. -/
def georgianSmall : CharClass := [(0x10D0, 0x10FA), (0x10FD, 0x10FF)]

def georgianCapital : CharClass := [(0x1C90, 0x1CBA), (0x1CBD, 0x1CBF)]

def sentenceLower : CharClass := difference lowercase (union graphemeExtend georgianSmall)

def sentenceUpper : CharClass :=
  difference (union uppercase (ofCategories ["Lt"])) georgianCapital

def sentenceExtend : CharClass :=
  normalize (graphemeExtend ++ ofCategories ["Mc"] ++ [(0x200D, 0x200D)])

/-- Letters of sentences that are of neither case. -/
def sentenceLetter : CharClass :=
  difference (union alphabetic [(0x5F3, 0x5F3)])
    (normalize (sentenceLower ++ sentenceUpper ++ sentenceExtend))

/-- The characters that count as one and the same part when text is broken into
characters. -/
def ofGraphemeBreak? : String → Option CharClass
  | "cr" => some [(0x0D, 0x0D)]
  | "lf" => some [(0x0A, 0x0A)]
  | "cn" | "control" =>
    let unassigned := intersection (ofCategories ["Cn"]) (ofProperty "di")
    some <| difference (union (ofCategories ["Zl", "Zp", "Cc", "Cf"]) unassigned) <|
      normalize (ofProperty "pcm" ++ [(0x0A, 0x0A), (0x0D, 0x0D), (0x200C, 0x200D)] ++ tags)
  | "ex" | "extend" => some (union graphemeExtend (ofProperty "emod"))
  | "l" => some [(0x1100, 0x115F), (0xA960, 0xA97C)]
  | "v" => some [(0x1160, 0x11A7), (0xD7B0, 0xD7C6)]
  | "t" => some [(0x11A8, 0x11FF), (0xD7CB, 0xD7FB)]
  | "lv" => some hangulOpenSyllables
  | "lvt" => some hangulClosedSyllables
  | "pp" | "prepend" => some <| union (ofProperty "pcm") <| ofHexLines [
      "D4E 111C2-111C3 1193F 11941 11A3A 11A84-11A89 11D46 11F02"]
  | "ri" | "regionalindicator" => some (ofProperty "ri")
  | "sm" | "spacingmark" => some <| union [(0xE33, 0xE33), (0xEB3, 0xEB3)] <|
      difference (ofCategories ["Mc"]) <| union graphemeExtend <| ofHexLines [
        "102B-102C 1038 1062-1064 1067-106D 1083 1087-108C 108F 109A-109C 1A61 1A63-1A64 AA7B AA7D",
        "11720-11721"]
  | "zwj" => some [(0x200D, 0x200D)]
  | _ => none

/-- The characters that count as one and the same part when text is broken into words. -/
def ofWordBreak? : String → Option CharClass
  | "cr" => some [(0x0D, 0x0D)]
  | "lf" => some [(0x0A, 0x0A)]
  | "nl" | "newline" => some [(0x0B, 0x0C), (0x85, 0x85), (0x2028, 0x2029)]
  | "le" | "aletter" => some wordLetter
  | "hl" | "hebrewletter" => some hebrewLetter
  | "ka" | "katakana" => some wordKatakana
  | "dq" | "doublequote" => some [(0x22, 0x22)]
  | "sq" | "singlequote" => some [(0x27, 0x27)]
  | "extend" => some wordExtend
  | "ex" | "extendnumlet" => some (union (ofCategories ["Pc"]) [(0x202F, 0x202F)])
  | "fo" | "format" => some (difference (ofCategories ["Cf"]) ((0x200B, 0x200D) :: tags))
  | "ml" | "midletter" => some midLetter
  | "mn" | "midnum" => some <| ofHexLines [
      "2C 3B 37E 589 60C-60D 66C 7F8 2044 FE10 FE14 FE50 FE54 FF0C FF1B"]
  | "mb" | "midnumlet" => some midNumLet
  | "nu" | "numeric" => some (union anyDigit [(0x66B, 0x66B)])
  | "ri" | "regionalindicator" => some (ofProperty "ri")
  | "wsegspace" => some (difference (ofCategories ["Zs"])
      [(0xA0, 0xA0), (0x2007, 0x2007), (0x202F, 0x202F)])
  | "zwj" => some [(0x200D, 0x200D)]
  | _ => none

/-- The characters that count as one and the same part when text is broken into sentences. -/
def ofSentenceBreak? : String → Option CharClass
  | "cr" => some [(0x0D, 0x0D)]
  | "lf" => some [(0x0A, 0x0A)]
  | "se" | "sep" => some [(0x85, 0x85), (0x2028, 0x2029)]
  | "sp" => some (difference (ofProperty "wspace")
      [(0x0A, 0x0A), (0x0D, 0x0D), (0x85, 0x85), (0x2028, 0x2029)])
  | "at" | "aterm" => some (ofHexLines ["2E 2024 FE52 FF0E"])
  | "st" | "sterm" => some (difference (ofProperty "sterm") (ofHexLines ["2E FE52 FF0E"]))
  | "cl" | "close" => some <| ofHexLines [
      "22 27-29 5B 5D 7B 7D AB BB F3A-F3D 169B-169C 2018-201F 2039-203A 2045-2046 207D-207E",
      "208D-208E 2308-230B 2329-232A 275B-2760 2768-2775 27C5-27C6 27E6-27EF 2983-2998 29D8-29DB",
      "29FC-29FD 2E00-2E0D 2E1C-2E1D 2E20-2E29 2E42 2E55-2E5C 3008-3011 3014-301B 301D-301F",
      "FD3E-FD3F FE17-FE18 FE35-FE44 FE47-FE48 FE59-FE5E FF08-FF09 FF3B FF3D FF5B FF5D FF5F-FF60",
      "FF62-FF63 1F676-1F678"]
  | "sc" | "scontinue" => some <| ofHexLines [
      "2C-2D 3A 55D 60C-60D 7F8 1802 1808 2013-2014 3001 FE10-FE11 FE13 FE31-FE32 FE50-FE51 FE55",
      "FE58 FE63 FF0C-FF0D FF1A FF64"]
  | "ex" | "extend" => some sentenceExtend
  | "fo" | "format" => some (difference (ofCategories ["Cf"]) ((0x200C, 0x200D) :: tags))
  | "lo" | "lower" => some sentenceLower
  | "up" | "upper" => some sentenceUpper
  | "le" | "oletter" => some sentenceLetter
  | "nu" | "numeric" => some (union anyDigit [(0x66B, 0x66C)])
  | _ => none

/-- The class of the characters for which a property has a value. -/
def ofPropertyValue? (property value : List Char) : Option CharClass :=
  let value := String.ofList (normalName value)
  match String.ofList (normalName property) with
  | "gc" | "generalcategory" => ofCategoryName? value
  | "sc" | "script" => ofTable? scriptRanges value
  | "scx" | "scriptextensions" => ofScriptExtension? value
  | "age" => ofAge? value
  | "gcb" | "graphemeclusterbreak" => ofGraphemeBreak? value
  | "wb" | "wordbreak" => ofWordBreak? value
  | "sb" | "sentencebreak" => ofSentenceBreak? value
  | _ => none

end CharClass

end Formwork
