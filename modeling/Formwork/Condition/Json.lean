import Formwork.Condition.Basic
import Formwork.Json.Members

/-!
# Conditions in JSON

A rule is a structure of a path, an operator and perhaps an operand; a group is a
structure of two lists that may each be missing.  Both are closed: a key that is
not theirs is refused, so that a mistyped rule is never taken for an empty group.
A tree is tried as a rule first.

* `Condition.ofTree?` reads a condition;
* `Condition.toValue` writes one.
-/

namespace Formwork

namespace Rule

def memberNames : List String := ["field", "op", "value"]

/-- A rule from its members in declared order. -/
def ofMembers? : List (Option Tree) → Option Rule
  | [field, op, value] => do
    let field ← Tree.required Tree.text? field
    let op ← Tree.required Tree.text? op
    let value ← Tree.optional Tree.value? value
    return ⟨field, Operator.ofTag op, value⟩
  | _ => none

/-- The members of a rule as they are written. -/
def toMembers (r : Rule) : List (String × Value) :=
  [("field", .text r.field), ("op", .text r.op.tag)] ++ Value.memberIf "value" r.value id

end Rule

namespace Condition

def groupNames : List String := ["and", "or"]

/-- The group with these two lists, each of which may be missing. -/
def ofLists : Option (List Condition) → Option (List Condition) → Condition
  | some xs, some ys => .conflicting xs ys
  | some xs, none => .all xs
  | none, some ys => .any ys
  | none, none => .unset

/-- A list of a group that may be missing or refused. -/
def branch? : Option (Option (Option (List Condition))) → Option (Option (List Condition))
  | none => some none
  | some branch => branch

/-- A group from its lists in declared order. -/
def ofBranches? : List (Option (Option (Option (List Condition)))) → Option Condition
  | [xs, ys] => do return ofLists (← branch? xs) (← branch? ys)
  | _ => none

mutual

/-- Reads a condition: a rule, or else a group. -/
def ofTree? : Tree → Option Condition
  | .record members => match (Tree.arrange? Rule.memberNames true members).bind Rule.ofMembers? with
    | some r => some (.rule r)
    | none => (Tree.arrange? groupNames true (branchesOfMembers members)).bind ofBranches?
  | .list items => match (Tree.arrangeItems? Rule.memberNames items).bind Rule.ofMembers? with
    | some r => some (.rule r)
    | none => (Tree.arrangeItems? groupNames (branchesOfItems items)).bind ofBranches?
  | _ => none

/-- Reads a list of a group: null stands for a list that is not set. -/
def branchOf? : Tree → Option (Option (List Condition))
  | .null => some none
  | .list items => (ofTrees? items).map some
  | _ => none

/-- Reads the conditions of a list. -/
def ofTrees? : List Tree → Option (List Condition)
  | [] => some []
  | t :: rest => match ofTree? t, ofTrees? rest with
    | some c, some cs => some (c :: cs)
    | _, _ => none

/-- Every member of a record as a list of a group. -/
def branchesOfMembers : List (String × Tree) → List (String × Option (Option (List Condition)))
  | [] => []
  | (k, t) :: rest => (k, branchOf? t) :: branchesOfMembers rest

/-- Every item of a list as a list of a group. -/
def branchesOfItems : List Tree → List (Option (Option (List Condition)))
  | [] => []
  | t :: rest => branchOf? t :: branchesOfItems rest

end

mutual

/-- The written form of a condition. -/
def toValue : Condition → Value
  | .rule r => .record r.toMembers
  | .all items => .record [("and", .list (toValues items))]
  | .any items => .record [("or", .list (toValues items))]
  | .unset => .record []
  | .conflicting xs ys => .record [("and", .list (toValues xs)), ("or", .list (toValues ys))]

/-- The written forms of several conditions. -/
def toValues : List Condition → List Value
  | [] => []
  | c :: rest => c.toValue :: toValues rest

end

end Condition

end Formwork
