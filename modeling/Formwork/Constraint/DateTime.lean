import Formwork.Number.Numeral
import Formwork.Text.DecimalDigit

/-!
# Dates and times in text

A calendar date is written `YYYY-MM-DD`, and a moment as a date, a `T` or a
blank, hours and minutes, perhaps seconds with a fraction, and perhaps `Z` or an
offset.  Year, month and day are written in ASCII digits, since they are
calculated with; the second digits of the time and the digits of the fraction may
be decimal digits of any script.

* `isLeapYear` and `daysInMonth` are the calendar;
* `isDateText` and `isDateTimeText` recognise whole texts.
-/

namespace Formwork

def isLeapYear (year : Nat) : Bool := (year % 4 = 0 && year % 100 ≠ 0) || year % 400 = 0

/-- The number of days of a month from 1 to 12. -/
def daysInMonth (year month : Nat) : Nat :=
  if month = 2 then if isLeapYear year then 29 else 28
  else if [4, 6, 9, 11].contains month then 30
  else 31

/-- What follows a calendar date at the head of a text. -/
def afterDate? : List Char → Option (List Char)
  | a :: b :: c :: d :: '-' :: m :: n :: '-' :: x :: y :: rest =>
    if [a, b, c, d, m, n, x, y].all Char.isDigit then
      let year := digitsValue [a, b, c, d]
      let month := digitsValue [m, n]
      let day := digitsValue [x, y]
      if 1 ≤ month ∧ month ≤ 12 ∧ 1 ≤ day ∧ day ≤ daysInMonth year month then some rest else none
    else none
  | _ => none

/-- Two digits of an hour from 00 to 23. -/
def isHour (a b : Char) : Bool :=
  ((a = '0' || a = '1') && isAnyDigit b) || (a = '2' && '0' ≤ b && b ≤ '3')

/-- Two digits of a minute or a second from 00 to 59. -/
def isSixtieth (a b : Char) : Bool := '0' ≤ a && a ≤ '5' && isAnyDigit b

/-- What follows a fraction at the head of a text: a point with at least one digit, or nothing. -/
def afterFraction? : List Char → Option (List Char)
  | '.' :: c :: rest => if isAnyDigit c then some (rest.dropWhile isAnyDigit) else none
  | '.' :: [] => none
  | s => some s

/-- What follows the seconds at the head of a text, if there are any. -/
def afterSeconds? : List Char → Option (List Char)
  | ':' :: a :: b :: rest => if isSixtieth a b then afterFraction? rest else none
  | ':' :: _ => none
  | s => some s

/-- The rest of a moment: nothing, `Z`, or an offset of hours and minutes. -/
def isZone : List Char → Bool
  | [] => true
  | ['Z'] => true
  | [sign, a, b, c, d] => (sign = '+' || sign = '-') && isHour a b && isSixtieth c d
  | [sign, a, b, ':', c, d] => (sign = '+' || sign = '-') && isHour a b && isSixtieth c d
  | _ => false

/-- What follows the hours and minutes at the head of a text. -/
def afterClock? : List Char → Option (List Char)
  | a :: b :: ':' :: c :: d :: rest => if isHour a b && isSixtieth c d then some rest else none
  | _ => none

/-- A time with its seconds and its zone. -/
def isTimeText (s : List Char) : Bool :=
  match (afterClock? s).bind afterSeconds? with
  | some rest => isZone rest
  | none => false

/-- A calendar date and nothing else. -/
def isDateText (s : List Char) : Bool := afterDate? s == some []

/-- A calendar date and a time. -/
def isDateTimeText (s : List Char) : Bool :=
  match afterDate? s with
  | some (mark :: rest) => (mark = 'T' || mark = ' ') && isTimeText rest
  | _ => false

end Formwork
