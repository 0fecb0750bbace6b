import Formwork.Json.Printer
import Formwork.Number.Numeral

/-!
# Comparing values across controls

A number may come from a text control as text, a check box may hold a truth
value or the word for it.  Three views let conditions compare such values:

* `Value.number?`, the numeric view: numbers, numerals in text, one and zero for
  the truth values;
* `Value.display`, the text view: texts as they are, lists joined by commas,
  records as JSON;
* `Value.looseEq`, equality that looks through the type: `"18"` equals `18`, and
  `"true"` equals `true`; null equals only null.
-/

namespace Formwork

/-- The text `part` occurs somewhere in the text `whole`. -/
def occursIn (part : List Char) : List Char → Bool
  | [] => part.isEmpty
  | c :: rest => part.isPrefixOf (c :: rest) || occursIn part rest

namespace Value

/-- One for true, zero for false. -/
def boolNumber (b : Bool) : Binary64 := if b then .one else .zero

/-- The number that a text names between blanks, if it names one. -/
def textNumber? (s : String) : Option Binary64 :=
  match trimBlanks s.toList with
  | [] => none
  | chars => Binary64.ofNumeral? chars

/-- The numeric view of a value. -/
def number? : Value → Option Binary64
  | .number n => some n.toBinary64
  | .text s => textNumber? s
  | .bool b => some (boolNumber b)
  | _ => none

mutual

/-- The characters of the text view. -/
def displayChars : Value → List Char
  | .text s => s.toList
  | .null => []
  | .number n => n.chars
  | .bool b => if b then "true".toList else "false".toList
  | .list [] => []
  | .list (v :: rest) => displayChars v ++ displayRest rest
  | .record members => JsonText.chars (.record members)

/-- The further items of a list, each after a comma. -/
def displayRest : List Value → List Char
  | [] => []
  | v :: rest => ',' :: (displayChars v ++ displayRest rest)

end

/-- The text view of a value. -/
def display (v : Value) : String := String.ofList v.displayChars

/-- A text and a truth value agree: the word for it, or the number for it. -/
def boolMatches (b : Bool) (s : String) : Bool :=
  let chars := trimBlanks s.toList
  if chars = "true".toList then b
  else if chars = "false".toList then !b
  else match Binary64.ofNumeral? chars with
    | some x => x.eq (boolNumber b)
    | none => false

/-- Both have a numeric view, and these are equal. -/
def sameNumber (a b : Value) : Bool :=
  match a.number?, b.number? with
  | some x, some y => x.eq y
  | _, _ => false

/-- A list and something else than a list agree in the text view; a record never agrees. -/
def sameDisplay (items : List Value) (other : Value) : Bool :=
  decide ((Value.list items).displayChars = other.displayChars) && !other.isRecord

mutual

/-- Equality across the types of controls. -/
def looseEq : Value → Value → Bool
  | .null, b => match b with
    | .null => true
    | _ => false
  | .bool x, b => match b with
    | .null => false
    | .bool y => x == y
    | .text s => boolMatches x s
    | .list items => sameDisplay items (.bool x)
    | b => sameNumber (.bool x) b
  | .number n, b => match b with
    | .null => false
    | .list items => sameDisplay items (.number n)
    | b => sameNumber (.number n) b
  | .text s, b => match b with
    | .null => false
    | .text t => s == t
    | .bool y => boolMatches y s
    | .list items => sameDisplay items (.text s)
    | b => sameNumber (.text s) b
  | .list items, b => match b with
    | .null => false
    | .list others => looseEqItems items others
    | b => sameDisplay items b
  | .record members, b => match b with
    | .record others => same (.record members) (.record others)
    | _ => false

/-- Lists of one length whose items agree place by place. -/
def looseEqItems : List Value → List Value → Bool
  | [], [] => true
  | a :: as, b :: bs => looseEq a b && looseEqItems as bs
  | _, _ => false

end

end Value

end Formwork
