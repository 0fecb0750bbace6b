import Formwork.Json.Numeral
import Formwork.Json.Tree

/-!
# Reading JSON

`Tree.ofText?` reads a whole text as one JSON value, or refuses it: strict
grammar, blanks only between tokens, nothing after the value.  What is well
written but denotes nothing becomes an unreadable leaf, so that the caller can
still skip it.

Reading is bounded by the length of the text: every call of `readTree` and its
companions consumes a character before the next one.
-/

namespace Formwork

namespace JsonText

/-- The blanks that may stand between tokens. -/
def isGap (c : Char) : Bool := c = ' ' || c = '\n' || c = '\t' || c = '\r'

def skipGap (s : List Char) : List Char := s.dropWhile isGap

/-- A part of a quoted text: a character, or a 16-bit unit given by its code. -/
inductive Piece where
  | char (c : Char)
  | code (n : Nat)
deriving DecidableEq, Repr

def hexDigit? (c : Char) : Option Nat :=
  if '0' ≤ c ∧ c ≤ '9' then some (c.toNat - '0'.toNat)
  else if 'a' ≤ c ∧ c ≤ 'f' then some (c.toNat - 'a'.toNat + 10)
  else if 'A' ≤ c ∧ c ≤ 'F' then some (c.toNat - 'A'.toNat + 10)
  else none

def hexCode? (a b c d : Char) : Option Nat := do
  return ((← hexDigit? a) * 16 + (← hexDigit? b)) * 256 + ((← hexDigit? c) * 16 + (← hexDigit? d))

/-- The character that a backslash with this letter stands for. -/
def escaped? : Char → Option Char
  | '"' => some '"'
  | '\\' => some '\\'
  | '/' => some '/'
  | 'b' => some '\x08'
  | 'f' => some '\x0c'
  | 'n' => some '\n'
  | 'r' => some '\r'
  | 't' => some '\t'
  | _ => none

/-- The pieces of a quoted text up to its closing quote, and what follows it. -/
def readPieces : List Char → Option (List Piece × List Char)
  | [] => none
  | '"' :: rest => some ([], rest)
  | '\\' :: 'u' :: a :: b :: c :: d :: rest => match hexCode? a b c d, readPieces rest with
    | some n, some (ps, r) => some (.code n :: ps, r)
    | _, _ => none
  | '\\' :: e :: rest => match escaped? e, readPieces rest with
    | some c, some (ps, r) => some (.char c :: ps, r)
    | _, _ => none
  | c :: rest =>
    if c.toNat < 0x20 ∨ c = '\\' then none
    else (readPieces rest).map fun (ps, r) => (.char c :: ps, r)

/-- The text of pieces: two units of a surrogate pair are one character, and a
unit of a pair that stands alone denotes nothing. -/
def joinPieces : List Piece → Option (List Char)
  | [] => some []
  | .char c :: rest => (joinPieces rest).map (c :: ·)
  | .code n :: rest =>
    if 0xD800 ≤ n ∧ n ≤ 0xDBFF then match rest with
      | .code m :: rest =>
        if 0xDC00 ≤ m ∧ m ≤ 0xDFFF then
          (joinPieces rest).map (Char.ofNat (0x10000 + (n - 0xD800) * 0x400 + (m - 0xDC00)) :: ·)
        else none
      | _ => none
    else if 0xDC00 ≤ n ∧ n ≤ 0xDFFF then none
    else (joinPieces rest).map (Char.ofNat n :: ·)

/-- A text after its opening quote; `none` inside for one that denotes nothing. -/
def readText (s : List Char) : Option (Option String × List Char) :=
  (readPieces s).map fun (ps, r) => ((joinPieces ps).map String.ofList, r)

/-- A list or a record is readable only while there is room for its nesting. -/
def within (room : Nat) (t : Tree) : Tree := if room = 0 then .unreadable else t

/-- A record all of whose keys denote something. -/
def recordOf (members : List (Option String × Tree)) : Tree :=
  match members.mapM fun (k, t) => k.map fun k => (k, t) with
  | some ms => .record ms
  | none => .unreadable

mutual

/-- Reads the value at the head of a text; `room` containers may still nest. -/
def readTree : Nat → Nat → List Char → Option (Tree × List Char)
  | 0, _, _ => none
  | fuel + 1, room, s => match s with
    | 'n' :: 'u' :: 'l' :: 'l' :: r => some (.null, r)
    | 't' :: 'r' :: 'u' :: 'e' :: r => some (.bool true, r)
    | 'f' :: 'a' :: 'l' :: 's' :: 'e' :: r => some (.bool false, r)
    | '"' :: r => (readText r).map fun (text, r) => ((text.map Tree.text).getD .unreadable, r)
    | '[' :: r => match skipGap r with
      | ']' :: r => some (within room (.list []), r)
      | r => match readTree fuel (room - 1) r with
        | some (t, r) => (readItems fuel (room - 1) (skipGap r)).map fun (ts, r) =>
          (within room (.list (t :: ts)), r)
        | none => none
    | '{' :: r => match skipGap r with
      | '}' :: r => some (within room (.record []), r)
      | r => match readMember fuel (room - 1) r with
        | some (m, r) => (readMembers fuel (room - 1) (skipGap r)).map fun (ms, r) =>
          (within room (recordOf (m :: ms)), r)
        | none => none
    | s => (JsonNumeral.read? s).map fun (n, r) => ((n.value?.map Tree.number).getD .unreadable, r)

/-- Reads the rest of a list after an item: its end, or a comma with more. -/
def readItems : Nat → Nat → List Char → Option (List Tree × List Char)
  | 0, _, _ => none
  | fuel + 1, room, s => match s with
    | ']' :: r => some ([], r)
    | ',' :: r => match readTree fuel room (skipGap r) with
      | some (t, r) => (readItems fuel room (skipGap r)).map fun (ts, r) => (t :: ts, r)
      | none => none
    | _ => none

/-- Reads a key, a colon and a value. -/
def readMember : Nat → Nat → List Char → Option ((Option String × Tree) × List Char)
  | 0, _, _ => none
  | fuel + 1, room, s => match s with
    | '"' :: r => match readText r with
      | some (key, r) => match skipGap r with
        | ':' :: r => (readTree fuel room (skipGap r)).map fun (t, r) => ((key, t), r)
        | _ => none
      | none => none
    | _ => none

/-- Reads the rest of a record after a member: its end, or a comma with more. -/
def readMembers : Nat → Nat → List Char → Option (List (Option String × Tree) × List Char)
  | 0, _, _ => none
  | fuel + 1, room, s => match s with
    | '}' :: r => some ([], r)
    | ',' :: r => match readMember fuel room (skipGap r) with
      | some (m, r) => (readMembers fuel room (skipGap r)).map fun (ms, r) => (m :: ms, r)
      | none => none
    | _ => none

end

/-- How deep lists and records may nest. -/
def nestingLimit : Nat := 127

end JsonText

/-- The tree of a whole text, if the text is one JSON value. -/
def Tree.ofText? (s : String) : Option Tree :=
  let chars := JsonText.skipGap s.toList
  match JsonText.readTree (chars.length + 1) JsonText.nestingLimit chars with
  | some (t, r) => if (JsonText.skipGap r).isEmpty then some t else none
  | none => none

/-- The value of a whole text. -/
def Value.ofText? (s : String) : Option Value := (Tree.ofText? s).bind Tree.value?

end Formwork
