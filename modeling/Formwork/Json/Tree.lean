import Formwork.Value.Basic

/-!
# JSON as it is written

A tree keeps what a reader needs to judge a text and a value has no room for: a
record keeps every member, also one whose key comes again, and a part that is
well written but denotes nothing is a leaf of its own (`unreadable`: a number too
large for the format, half a surrogate pair, nesting beyond the limit).

* `Tree.value?` reads a tree as a value: of two members with one key the later
  gives the value and the earlier the place; nothing may be unreadable.
* `Tree.ofValue` is the tree that a value is written as.
-/

namespace Formwork

/-- A JSON text, parsed but not judged. -/
inductive Tree where
  | null
  | bool (b : Bool)
  | number (n : Numeric)
  | text (s : String)
  | list (items : List Tree)
  | record (members : List (String × Tree))
  | unreadable
deriving Repr, Inhabited

namespace Tree

mutual

/-- The value of a tree, if every part of it denotes something. -/
def value? : Tree → Option Value
  | .null => some .null
  | .bool b => some (.bool b)
  | .number n => some (.number n)
  | .text s => some (.text s)
  | .list items => (values? items).map .list
  | .record members => (memberValues? members).map fun ms => .record (Entries.ofPairs ms)
  | .unreadable => none

/-- The values of the items of a list. -/
def values? : List Tree → Option (List Value)
  | [] => some []
  | t :: rest => match value? t, values? rest with
    | some v, some vs => some (v :: vs)
    | _, _ => none

/-- The values of the members of a record, repeated keys included. -/
def memberValues? : List (String × Tree) → Option (List (String × Value))
  | [] => some []
  | (k, t) :: rest => match value? t, memberValues? rest with
    | some v, some vs => some ((k, v) :: vs)
    | _, _ => none

end

/-- Every part of the tree denotes something. -/
def isReadable (t : Tree) : Bool := t.value?.isSome

mutual

/-- The tree that a value is written as. -/
def ofValue : Value → Tree
  | .null => .null
  | .bool b => .bool b
  | .number n => .number n
  | .text s => .text s
  | .list items => .list (ofItems items)
  | .record members => .record (ofMembers members)

/-- The trees of the items of a list. -/
def ofItems : List Value → List Tree
  | [] => []
  | v :: rest => ofValue v :: ofItems rest

/-- The trees of the members of a record. -/
def ofMembers : List (String × Value) → List (String × Tree)
  | [] => []
  | (k, v) :: rest => (k, ofValue v) :: ofMembers rest

end

end Tree

end Formwork
