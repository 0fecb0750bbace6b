import Formwork.Number.Shortest
import Formwork.Value.Basic

/-!
# Writing JSON

`Value.compact` writes a value without any blank; `Value.pretty` gives every item
and member a line of its own, two blanks deeper than its container.  An integer
is written in digits, a binary64 number always with a point or an exponent, so
that the two kinds stay apart.
-/

namespace Formwork

/-- The digits of an integer, with a minus sign if it is negative. -/
def integerText (n : Int) : List Char :=
  if n < 0 then '-' :: Nat.toDigits 10 n.natAbs else Nat.toDigits 10 n.natAbs

/-- The written form of a number; JSON has no word for one that is not finite. -/
def Numeric.chars : Numeric → List Char
  | .integer n => integerText n
  | .real x => if x.isFinite then x.textWith .toEven Decimal.scientific else "null".toList

namespace JsonText

def hexChar (n : Nat) : Char := Nat.digitChar n

/-- A character between quotes: the quote, the backslash and control characters
are written with a backslash, everything else as it is. -/
def quoteChar (c : Char) : List Char :=
  if c = '"' then ['\\', '"']
  else if c = '\\' then ['\\', '\\']
  else if c = '\n' then ['\\', 'n']
  else if c = '\r' then ['\\', 'r']
  else if c = '\t' then ['\\', 't']
  else if c = '\x08' then ['\\', 'b']
  else if c = '\x0c' then ['\\', 'f']
  else if c.toNat < 0x20 then ['\\', 'u', '0', '0', hexChar (c.toNat / 16), hexChar (c.toNat % 16)]
  else [c]

def quote (s : String) : List Char := '"' :: (s.toList.flatMap quoteChar ++ ['"'])

mutual

/-- The compact form of a value. -/
def chars : Value → List Char
  | .null => "null".toList
  | .bool b => if b then "true".toList else "false".toList
  | .number n => n.chars
  | .text s => quote s
  | .list [] => "[]".toList
  | .list (v :: rest) => '[' :: (chars v ++ itemChars rest)
  | .record [] => ['\x7b', '\x7d']
  | .record ((k, v) :: rest) => '\x7b' :: (quote k ++ ':' :: (chars v ++ memberChars rest))

/-- The rest of a list after an item. -/
def itemChars : List Value → List Char
  | [] => [']']
  | v :: rest => ',' :: (chars v ++ itemChars rest)

/-- The rest of a record after a member. -/
def memberChars : List (String × Value) → List Char
  | [] => ['\x7d']
  | (k, v) :: rest => ',' :: (quote k ++ ':' :: (chars v ++ memberChars rest))

end

/-- A new line, `depth` steps of two blanks deep. -/
def newLine (depth : Nat) : List Char := '\n' :: List.replicate (2 * depth) ' '

mutual

/-- The form of a value over several lines, inside `depth` containers. -/
def prettyChars (depth : Nat) : Value → List Char
  | .list (v :: rest) =>
    '[' :: (newLine (depth + 1) ++ (prettyChars (depth + 1) v ++ prettyItems depth rest))
  | .record ((k, v) :: rest) =>
    '\x7b' :: (newLine (depth + 1) ++ (quote k ++ ':' :: ' ' ::
      (prettyChars (depth + 1) v ++ prettyMembers depth rest)))
  | v => chars v

/-- The rest of a list after an item, over several lines. -/
def prettyItems (depth : Nat) : List Value → List Char
  | [] => newLine depth ++ [']']
  | v :: rest =>
    ',' :: (newLine (depth + 1) ++ (prettyChars (depth + 1) v ++ prettyItems depth rest))

/-- The rest of a record after a member, over several lines. -/
def prettyMembers (depth : Nat) : List (String × Value) → List Char
  | [] => newLine depth ++ ['\x7d']
  | (k, v) :: rest =>
    ',' :: (newLine (depth + 1) ++ (quote k ++ ':' :: ' ' ::
      (prettyChars (depth + 1) v ++ prettyMembers depth rest)))

end

end JsonText

/-- The text of a value without blanks. -/
def Value.compact (v : Value) : String := String.ofList (JsonText.chars v)

/-- The text of a value over several lines. -/
def Value.pretty (v : Value) : String := String.ofList (JsonText.prettyChars 0 v)

end Formwork
