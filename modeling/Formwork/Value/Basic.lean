import Formwork.Entries
import Formwork.Number.Binary64

/-!
# Form values

A form value is what a control can hold: nothing, a truth value, a number, a
text, a list or a record.  Numbers come in two kinds that are never the same
value: integers, and binary floating-point numbers.

`Value.same` is equality of data: the members of a record may come in any
order, and a zero has no sign.  It compares canonical forms, so it is an
equivalence by construction.
-/

namespace Formwork

/-- A number as data. -/
inductive Numeric where
  | integer (n : Int)
  | real (x : Binary64)
deriving DecidableEq, Repr, Inhabited

/-- The nearest binary64 number. -/
def Numeric.toBinary64 : Numeric → Binary64
  | .integer n => Binary64.ofInt n
  | .real x => x

/-- A zero loses its sign. -/
def Numeric.canon : Numeric → Numeric
  | .real (.finite true 0) => .real (.finite false 0)
  | n => n

/-- A form value. -/
inductive Value where
  | null
  | bool (b : Bool)
  | number (n : Numeric)
  | text (s : String)
  | list (items : List Value)
  | record (members : List (String × Value))
deriving Repr, Inhabited

/-- A snapshot of a form: the value of every control that has one, by its key. -/
abbrev Snapshot := Entries Value

namespace Value

/-- A whole number as a value. -/
def ofNat (n : Nat) : Value := .number (.integer n)

mutual

/-- Decides whether two values are the same term. -/
def decEq : (a b : Value) → Decidable (a = b)
  | .null, b => match b with
    | .null => isTrue rfl
    | .bool _ | .number _ | .text _ | .list _ | .record _ => isFalse nofun
  | .bool x, b => match b with
    | .bool y => if h : x = y then isTrue (by rw [h]) else isFalse (by simp [h])
    | .null | .number _ | .text _ | .list _ | .record _ => isFalse nofun
  | .number x, b => match b with
    | .number y => if h : x = y then isTrue (by rw [h]) else isFalse (by simp [h])
    | .null | .bool _ | .text _ | .list _ | .record _ => isFalse nofun
  | .text x, b => match b with
    | .text y => if h : x = y then isTrue (by rw [h]) else isFalse (by simp [h])
    | .null | .bool _ | .number _ | .list _ | .record _ => isFalse nofun
  | .list x, b => match b with
    | .list y => match decEqItems x y with
      | isTrue h => isTrue (by rw [h])
      | isFalse h => isFalse (by simp [h])
    | .null | .bool _ | .number _ | .text _ | .record _ => isFalse nofun
  | .record x, b => match b with
    | .record y => match decEqMembers x y with
      | isTrue h => isTrue (by rw [h])
      | isFalse h => isFalse (by simp [h])
    | .null | .bool _ | .number _ | .text _ | .list _ => isFalse nofun

/-- Decides whether two lists of items are the same. -/
def decEqItems : (a b : List Value) → Decidable (a = b)
  | [], [] => isTrue rfl
  | a :: as, b :: bs => match decEq a b, decEqItems as bs with
    | isTrue h, isTrue k => isTrue (by rw [h, k])
    | isFalse h, _ => isFalse (by simp [h])
    | _, isFalse h => isFalse (by simp [h])
  | [], _ :: _ => isFalse nofun
  | _ :: _, [] => isFalse nofun

/-- Decides whether two lists of members are the same. -/
def decEqMembers : (a b : List (String × Value)) → Decidable (a = b)
  | [], [] => isTrue rfl
  | (j, a) :: as, (k, b) :: bs =>
    match instDecidableEqString j k, decEq a b, decEqMembers as bs with
    | isTrue i, isTrue h, isTrue t => isTrue (by rw [i, h, t])
    | isFalse h, _, _ => isFalse (by simp [h])
    | _, isFalse h, _ => isFalse (by simp [h])
    | _, _, isFalse h => isFalse (by simp [h])
  | [], _ :: _ => isFalse nofun
  | _ :: _, [] => isFalse nofun

end

instance : DecidableEq Value := decEq

mutual

/-- The value with every record sorted by key and every zero without its sign. -/
def canon : Value → Value
  | .number n => .number n.canon
  | .list items => .list (canonItems items)
  | .record members => .record ((canonMembers members).mergeSort fun p q => p.1 ≤ q.1)
  | v => v

/-- The canonical forms of the items of a list. -/
def canonItems : List Value → List Value
  | [] => []
  | v :: rest => canon v :: canonItems rest

/-- The members with canonical values, in their order. -/
def canonMembers : List (String × Value) → List (String × Value)
  | [] => []
  | (k, v) :: rest => (k, canon v) :: canonMembers rest

end

/-- Equality of data: the order of members and the sign of a zero do not count. -/
def same (a b : Value) : Bool := decide (a.canon = b.canon)

@[simp] theorem same_refl (a : Value) : a.same a = true := by simp [same]

/-- Sameness does not depend on the order. -/
theorem same_comm (a b : Value) : a.same b = b.same a := by
  unfold same
  exact decide_eq_decide.mpr eq_comm

/-- Null, and the empty text: a control without a value. -/
def isBlank : Value → Bool
  | .null => true
  | .text s => s.isEmpty
  | _ => false

def isRecord : Value → Bool
  | .record _ => true
  | _ => false

/-- Strings as a list of values. -/
def texts (items : List String) : Value := .list (items.map Value.text)

end Value

end Formwork
