import Formwork.Json.Members

/-!
# Alternatives in JSON

A value of one of several kinds is a structure with one more member, the tag,
which names the kind; in a list the tag comes first.  To find the tag the whole
structure is read, so no part of it may be unreadable.  Inside a structure that
has been read already the tag may also be the number of the kind.

An alternative that is only a name is written as that name, or as a record whose
single key it is; a name with nothing to add then has null or an empty record.
-/

namespace Formwork

namespace Tree

/-- The kind that a tag stands for. -/
def kindOfTag? (kinds : List String) (nested : Bool) : Tree → Option Nat
  | .text s => kinds.idxOf? s
  | .number (.integer n) =>
    if nested && decide (0 ≤ n) && decide (n < kinds.length) then some n.toNat else none
  | _ => none

/-- The members of a record but those with this key. -/
def without (key : String) (members : List (String × Tree)) : List (String × Tree) :=
  members.filter fun m => m.1 ≠ key

/-- The kind of a structure and the structure without its tag. -/
def tagged? (tag : String) (kinds : List String) (nested : Bool) (t : Tree) :
    Option (Nat × Tree) :=
  if !(nested || t.isReadable) then none
  else match t with
  | .record members => do
    let kind ← required (kindOfTag? kinds nested) (← member? members tag)
    return (kind, .record (without tag members))
  | .list (first :: rest) => (kindOfTag? kinds nested first).map fun kind => (kind, .list rest)
  | _ => none

/-- Nothing to add to a name. -/
def isNothing : Tree → Bool
  | .null => true
  | .record [] => true
  | _ => false

/-- A name, alone or as the single key of a record with nothing to add. -/
def name? : Tree → Option String
  | .text s => some s
  | .record [(s, t)] => if t.isNothing then some s else none
  | _ => none

end Tree

end Formwork
