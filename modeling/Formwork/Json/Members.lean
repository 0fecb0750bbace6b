import Formwork.Json.Tree

/-!
# Structures in JSON

A structure is written as a record of its members, in any order, or as a list of
them in the order in which they are declared, the last ones left out if they can
be missing.  `arrange?` brings the members of a record into declared order: no
declared member may come twice, and in a closed structure no other one may come
at all.  `arrangeItems?` does the same for a list.

The readers of single members tell apart a member that is missing, one that is
null, and one with a value.
-/

namespace Formwork

namespace Tree

variable {α β : Type}

/-- The members with this key. -/
def occurrences (members : List (String × α)) (name : String) : List α :=
  members.filterMap fun m => if m.1 = name then some m.2 else none

/-- The member with a name, `none` inside if there is none; refused if there are several. -/
def member? (members : List (String × α)) (name : String) : Option (Option α) :=
  match occurrences members name with
  | [] => some none
  | [m] => some (some m)
  | _ => none

/-- The members of a record in declared order. -/
def arrange? (names : List String) (closed : Bool) (members : List (String × α)) :
    Option (List (Option α)) :=
  if closed && !(members.all fun m => names.contains m.1) then none
  else names.mapM (member? members)

/-- The members given as a list, in declared order. -/
def arrangeItems? (names : List String) (items : List α) : Option (List (Option α)) :=
  if names.length < items.length then none
  else some (items.map some ++ List.replicate (names.length - items.length) none)

/-- The members of a structure in either form. -/
def members? (names : List String) (closed : Bool) : Tree → Option (List (Option Tree))
  | .record ms => arrange? names closed ms
  | .list items => arrangeItems? names items
  | _ => none

/-- A member that must be there. -/
def required (read : Tree → Option β) : Option Tree → Option β
  | some t => read t
  | none => none

/-- A member that may be missing or null. -/
def optional (read : Tree → Option β) : Option Tree → Option (Option β)
  | none => some none
  | some .null => some none
  | some t => (read t).map some

/-- A member with a default, which may be missing but not null. -/
def orDefault (fallback : β) (read : Tree → Option β) : Option Tree → Option β
  | none => some fallback
  | some t => read t

def text? : Tree → Option String
  | .text s => some s
  | _ => none

def bool? : Tree → Option Bool
  | .bool b => some b
  | _ => none

/-- A natural number below a limit, written as an integer. -/
def natBelow? (limit : Nat) : Tree → Option Nat
  | .number (.integer n) => if 0 ≤ n ∧ n < limit then some n.toNat else none
  | _ => none

/-- A natural number of 32 bits. -/
def nat32? : Tree → Option Nat := natBelow? (Nat.pow 2 32)

/-- A natural number of 64 bits. -/
def nat64? : Tree → Option Nat := natBelow? (Nat.pow 2 64)

/-- A number, the nearest binary64 number if it is written as an integer. -/
def real? : Tree → Option Binary64
  | .number n => some n.toBinary64
  | _ => none

/-- A list whose items are all read the same way. -/
def list? (read : Tree → Option β) : Tree → Option (List β)
  | .list items => items.mapM read
  | _ => none

/-- A record of values, as a map. -/
def valueMap? : Tree → Option (Entries Value)
  | .record ms => (memberValues? ms).map Entries.ofPairs
  | _ => none

/-- A record whose values are all read the same way, as a map. -/
def mapOf? (read : Tree → Option β) : Tree → Option (Entries β)
  | .record ms =>
    (ms.mapM fun (m : String × Tree) => (read m.2).map fun v => (m.1, v)).map Entries.ofPairs
  | _ => none

end Tree

namespace Value

/-- A member to be written, if it has a value. -/
def memberIf (key : String) (value : Option α) (write : α → Value) : List (String × Value) :=
  match value with
  | some v => [(key, write v)]
  | none => []

/-- A value or null. -/
def orNull (value : Option α) (write : α → Value) : Value :=
  match value with
  | some v => write v
  | none => .null

end Value

end Formwork
