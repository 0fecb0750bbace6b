/-!
# Script extensions

Some characters are used with several scripts.  For a script that shares characters
with others its names and the ranges of those that are not its own, in hexadecimal.
-/

namespace Formwork

/-- Names of scripts, and the ranges of the characters that each shares. -/
def scriptExtensionRanges : List (List String × List String) := [
  (["adlm", "adlam"], [
    "61F 640"]),
  (["arab", "arabic"], [
    "60C 61B 61F 640 64B-655 670 FD3E-FD3F 102E0-102FB"]),
  (["beng", "bengali"], [
    "951-952 964-965 1CD0 1CD2 1CD5-1CD6 1CD8 1CE1 1CEA 1CED 1CF2 1CF5-1CF7 A8F1"]),
  (["bopo", "bopomofo"], [
    "3001-3003 3008-3011 3013-301F 302A-302D 3030 3037 30FB FE45-FE46 FF61-FF65"]),
  (["bugi", "buginese"], [
    "A9CF"]),
  (["buhd", "buhid"], [
    "1735-1736"]),
  (["cakm", "chakma"], [
    "9E6-9EF 1040-1049"]),
  (["copt", "coptic", "qaac"], [
    "102E0-102FB"]),
  (["cpmn", "cyprominoan"], [
    "10100-10101"]),
  (["cprt", "cypriot"], [
    "10100-10102 10107-10133 10137-1013F"]),
  (["cyrl", "cyrillic"], [
    "485-486 1DF8 2E43"]),
  (["deva", "devanagari"], [
    "951-952 964-965 1CD0-1CF6 1CF8-1CF9 20F0 A830-A839"]),
  (["dogr", "dogra"], [
    "964-96F A830-A839"]),
  (["dupl", "duployan"], [
    "1BCA0-1BCA3"]),
  (["geor", "georgian"], [
    "10FB"]),
  (["glag", "glagolitic"], [
    "484 487 2E43 A66F"]),
  (["gong", "gunjalagondi"], [
    "964-965"]),
  (["gonm", "masaramgondi"], [
    "964-965"]),
  (["gran", "grantha"], [
    "951-952 964-965 BE6-BF3 1CD0 1CD2-1CD3 1CF2-1CF4 1CF8-1CF9 20F0 1133B 11FD0-11FD1 11FD3"]),
  (["grek", "greek"], [
    "342 345 1DC0-1DC1"]),
  (["gujr", "gujarati"], [
    "951-952 964-965 A830-A839"]),
  (["guru", "gurmukhi"], [
    "951-952 964-965 A830-A839"]),
  (["hang", "hangul"], [
    "3001-3003 3008-3011 3013-301F 3030 3037 30FB FE45-FE46 FF61-FF65"]),
  (["hani", "han"], [
    "3001-3003 3006 3008-3011 3013-301F 302A-302D 3030 3037 303C-303F 30FB 3190-319F 31C0-31E3",
    "3220-3247 3280-32B0 32C0-32CB 32FF 3358-3370 337B-337F 33E0-33FE A700-A707 FE45-FE46",
    "FF61-FF65 1D360-1D371 1F250-1F251"]),
  (["hano", "hanunoo"], [
    "1735-1736"]),
  (["hira", "hiragana"], [
    "3001-3003 3008-3011 3013-301F 3030-3035 3037 303C-303D 3099-309C 30A0 30FB-30FC FE45-FE46",
    "FF61-FF65 FF70 FF9E-FF9F"]),
  (["java", "javanese"], [
    "A9CF"]),
  (["kali", "kayahli"], [
    "A92E"]),
  (["kana", "katakana"], [
    "3001-3003 3008-3011 3013-301F 3030-3035 3037 303C-303D 3099-309C 30A0 30FB-30FC FE45-FE46",
    "FF61-FF65 FF70 FF9E-FF9F"]),
  (["khoj", "khojki"], [
    "AE6-AEF A830-A839"]),
  (["knda", "kannada"], [
    "951-952 964-965 1CD0 1CD2 1CDA 1CF2 1CF4 A830-A835"]),
  (["kthi", "kaithi"], [
    "966-96F A830-A839"]),
  (["latn", "latin"], [
    "363-36F 485-486 951-952 10FB 202F 20F0 A700-A707 A92E"]),
  (["limb", "limbu"], [
    "965"]),
  (["lina", "lineara"], [
    "10107-10133"]),
  (["linb", "linearb"], [
    "10100-10102 10107-10133 10137-1013F"]),
  (["mahj", "mahajani"], [
    "964-96F A830-A839"]),
  (["mand", "mandaic"], [
    "640"]),
  (["mani", "manichaean"], [
    "640"]),
  (["mlym", "malayalam"], [
    "951-952 964-965 1CDA A830-A832"]),
  (["modi"], [
    "A830-A839"]),
  (["mong", "mongolian"], [
    "1802-1803 1805 202F"]),
  (["mult", "multani"], [
    "A66-A6F"]),
  (["mymr", "myanmar"], [
    "A92E"]),
  (["nand", "nandinagari"], [
    "964-965 CE6-CEF 1CE9 1CF2 1CFA A830-A835"]),
  (["nkoo", "nko"], [
    "60C 61B 61F FD3E-FD3F"]),
  (["orya", "oriya"], [
    "951-952 964-965 1CDA 1CF2"]),
  (["ougr", "olduyghur"], [
    "640 10AF2"]),
  (["perm", "oldpermic"], [
    "483"]),
  (["phag", "phagspa"], [
    "1802-1803 1805"]),
  (["phlp", "psalterpahlavi"], [
    "640"]),
  (["rohg", "hanifirohingya"], [
    "60C 61B 61F 640 6D4"]),
  (["shrd", "sharada"], [
    "951 1CD7 1CD9 1CDC-1CDD 1CE0"]),
  (["sind", "khudawadi"], [
    "964-965 A830-A839"]),
  (["sinh", "sinhala"], [
    "964-965"]),
  (["sogd", "sogdian"], [
    "640"]),
  (["sylo", "sylotinagri"], [
    "964-965 9E6-9EF"]),
  (["syrc", "syriac"], [
    "60C 61B-61C 61F 640 64B-655 670 1DF8 1DFA"]),
  (["tagb", "tagbanwa"], [
    "1735-1736"]),
  (["takr", "takri"], [
    "964-965 A830-A839"]),
  (["tale", "taile"], [
    "1040-1049"]),
  (["taml", "tamil"], [
    "951-952 964-965 1CDA A8F3 11301 11303 1133B-1133C"]),
  (["telu", "telugu"], [
    "951-952 964-965 1CDA 1CF2"]),
  (["tglg", "tagalog"], [
    "1735-1736"]),
  (["thaa", "thaana"], [
    "60C 61B-61C 61F 660-669 FDF2 FDFD"]),
  (["tirh", "tirhuta"], [
    "951-952 964-965 1CF2 A830-A839"]),
  (["yezi", "yezidi"], [
    "60C 61B 61F 660-669"]),
  (["yiii", "yi"], [
    "3001-3002 3008-3011 3014-301B 30FB FF61-FF65"])]

end Formwork
