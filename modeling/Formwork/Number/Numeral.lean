import Formwork.Number.Binary64
import Formwork.Text.Blank

/-!
# Numerals in a text

`Binary64.ofNumeral?` reads a text that is a numeral as the nearest number: an
optional sign, digits with an optional point among or beside them, an optional
power of ten; or a name for infinity or for the undefined number, in any case.
Nothing may surround it.
-/

namespace Formwork

/-- The number that a row of decimal digits stands for. -/
def digitsValue (ds : List Char) : Nat := Nat.ofDigitChars 10 ds 0

namespace Binary64

/-- The number nearest to `coefficient * 10 ^ exponent`.  A power of ten so far
out that the answer is settled is not computed. -/
def ofDecimal (negative : Bool) (coefficient : Nat) (exponent : Int) : Binary64 :=
  let size := (Nat.toDigits 10 coefficient).length + exponent
  if coefficient = 0 ∨ size < -400 then .finite negative 0
  else if 400 < size then .infinite negative
  else ofRatio negative (coefficient * Nat.pow 10 exponent.toNat) (Nat.pow 10 (-exponent).toNat)

/-- A sign at the head of a text, and what follows. -/
def takeSign : List Char → Bool × List Char
  | '+' :: rest => (false, rest)
  | '-' :: rest => (true, rest)
  | s => (false, s)

/-- A power of ten at the end of a numeral: nothing, or a mark with an integer. -/
def exponentOf? : List Char → Option Int
  | [] => some 0
  | c :: rest =>
    if c = 'e' ∨ c = 'E' then
      let (negative, ds) := takeSign rest
      if ds.isEmpty || !ds.all Char.isDigit then none
      else if negative then some (-(digitsValue ds : Int)) else some (digitsValue ds)
    else none

/-- Digits, an optional point with digits, an optional power of ten; at least
one digit stands before or after the point. -/
def ofDigits? (negative : Bool) (s : List Char) : Option Binary64 :=
  let whole := s.takeWhile Char.isDigit
  let afterWhole := s.dropWhile Char.isDigit
  let (fraction, rest) := match afterWhole with
    | '.' :: r => (r.takeWhile Char.isDigit, r.dropWhile Char.isDigit)
    | r => ([], r)
  if whole.isEmpty && fraction.isEmpty then none
  else (exponentOf? rest).map fun e =>
    ofDecimal negative (digitsValue (whole ++ fraction)) (e - fraction.length)

/-- The number that a whole text names, if it is a numeral. -/
def ofNumeral? (text : List Char) : Option Binary64 :=
  let (negative, body) := takeSign text
  let name := body.map Char.toLower
  if name = "inf".toList ∨ name = "infinity".toList then some (.infinite negative)
  else if name = "nan".toList then some .undefined
  else ofDigits? negative body

end Binary64

end Formwork
