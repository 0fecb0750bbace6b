import Formwork.Text.CharClass

/-!
# Blank characters

The characters of the property White_Space, and texts without the blanks at
their two ends.
-/

namespace Formwork

/-- The characters of White_Space. -/
def CharClass.blank : CharClass :=
  [(0x09, 0x0D), (0x20, 0x20), (0x85, 0x85), (0xA0, 0xA0), (0x1680, 0x1680), (0x2000, 0x200A),
    (0x2028, 0x2029), (0x202F, 0x202F), (0x205F, 0x205F), (0x3000, 0x3000)]

def isBlank (c : Char) : Bool := CharClass.blank.contains c

/-- The characters of a text between the blanks at its ends. -/
def trimBlanks (s : List Char) : List Char :=
  ((s.dropWhile isBlank).reverse.dropWhile isBlank).reverse

/-- Only blanks, or nothing at all. -/
def isBlankText (s : String) : Bool := s.toList.all isBlank

end Formwork
