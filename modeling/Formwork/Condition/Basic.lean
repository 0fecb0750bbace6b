import Formwork.Value.Basic

/-!
# Conditions

A condition is a boolean expression over the values of a form: rules, each
comparing the value at a path with an operand, and groups of conditions, of which
all or any are to hold.  A group that sets neither list, or both, can be written
down too; the first imposes nothing, the second is a fault when it is evaluated.

* `Condition.conj` extends a conjunction on the right;
* `Condition.paths` lists the paths that a condition mentions.
-/

namespace Formwork

/-- How a rule compares.  A tag that is not known is kept as it is. -/
inductive Operator where
  | equal
  | notEqual
  | greater
  | atLeast
  | less
  | atMost
  | contains
  | matching
  | present
  | absent
  | unknown (tag : String)
deriving DecidableEq, Repr

namespace Operator

/-- The tag of an operator in a definition. -/
def tag : Operator → String
  | .equal => "eq"
  | .notEqual => "neq"
  | .greater => "gt"
  | .atLeast => "gte"
  | .less => "lt"
  | .atMost => "lte"
  | .contains => "contains"
  | .matching => "regex"
  | .present => "exists"
  | .absent => "not_exists"
  | .unknown tag => tag

/-- The operator with a tag. -/
def ofTag : String → Operator
  | "eq" => .equal
  | "neq" => .notEqual
  | "gt" => .greater
  | "gte" => .atLeast
  | "lt" => .less
  | "lte" => .atMost
  | "contains" => .contains
  | "regex" => .matching
  | "exists" => .present
  | "not_exists" => .absent
  | tag => .unknown tag

/-- How an operator is shown in an explanation. -/
def symbol : Operator → String
  | .equal => "=="
  | .notEqual => "!="
  | .greater => ">"
  | .atLeast => ">="
  | .less => "<"
  | .atMost => "<="
  | .contains => "contains"
  | .matching => "matches"
  | .present => "exists"
  | .absent => "is empty"
  | .unknown tag => tag

/-- Whether an operator compares with an operand. -/
def takesOperand : Operator → Bool
  | .present => false
  | .absent => false
  | _ => true

end Operator

/-- One comparison of the value at a path. -/
structure Rule where
  field : String
  op : Operator
  value : Option Value := none
deriving DecidableEq, Repr

/-- A boolean expression over the values of a form. -/
inductive Condition where
  | rule (r : Rule)
  | all (items : List Condition)
  | any (items : List Condition)
  | unset
  | conflicting (all any : List Condition)
deriving Repr, Inhabited

namespace Condition

mutual

/-- Decides whether two conditions are the same. -/
def decEq : (a b : Condition) → Decidable (a = b)
  | .rule r, b => match b with
    | .rule s => if h : r = s then isTrue (by rw [h]) else isFalse (by simp [h])
    | .all _ | .any _ | .unset | .conflicting .. => isFalse nofun
  | .all x, b => match b with
    | .all y => match decEqList x y with
      | isTrue h => isTrue (by rw [h])
      | isFalse h => isFalse (by simp [h])
    | .rule _ | .any _ | .unset | .conflicting .. => isFalse nofun
  | .any x, b => match b with
    | .any y => match decEqList x y with
      | isTrue h => isTrue (by rw [h])
      | isFalse h => isFalse (by simp [h])
    | .rule _ | .all _ | .unset | .conflicting .. => isFalse nofun
  | .unset, b => match b with
    | .unset => isTrue rfl
    | .rule _ | .all _ | .any _ | .conflicting .. => isFalse nofun
  | .conflicting x y, b => match b with
    | .conflicting z w => match decEqList x z, decEqList y w with
      | isTrue h, isTrue k => isTrue (by rw [h, k])
      | isFalse h, _ => isFalse (by simp [h])
      | _, isFalse h => isFalse (by simp [h])
    | .rule _ | .all _ | .any _ | .unset => isFalse nofun

/-- Decides whether two lists of conditions are the same. -/
def decEqList : (a b : List Condition) → Decidable (a = b)
  | [], [] => isTrue rfl
  | a :: as, b :: bs => match decEq a b, decEqList as bs with
    | isTrue h, isTrue k => isTrue (by rw [h, k])
    | isFalse h, _ => isFalse (by simp [h])
    | _, isFalse h => isFalse (by simp [h])
  | [], _ :: _ => isFalse nofun
  | _ :: _, [] => isFalse nofun

end

instance : DecidableEq Condition := decEq

/-- The conjunction of two conditions; a conjunction on the left takes the other in. -/
def conj : Condition → Condition → Condition
  | .all items, c => .all (items ++ [c])
  | b, c => .all [b, c]

mutual

/-- The paths that a condition mentions, in the order in which they are written. -/
def paths : Condition → List String
  | .rule r => [r.field]
  | .all items => pathsOf items
  | .any items => pathsOf items
  | .unset => []
  | .conflicting xs ys => pathsOf xs ++ pathsOf ys

/-- The paths that several conditions mention. -/
def pathsOf : List Condition → List String
  | [] => []
  | c :: rest => c.paths ++ pathsOf rest

end

end Condition

end Formwork
