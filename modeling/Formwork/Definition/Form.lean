import Formwork.Definition.Field

/-!
# Forms

A form is an ordered map from keys to nodes: fields, and groups of further nodes.
A group has settings of its own, among them a step and a condition that its
fields inherit.
-/

namespace Formwork

/-- How the fields of a group are arranged. -/
inductive Layout where
  | vertical
  | horizontal
  | inline
  | grid (columns : Nat)
deriving DecidableEq, Repr, Inhabited

/-- What a group says besides its nodes. -/
structure GroupSettings where
  layout : Layout := .vertical
  label : Option String := none
  isCollapsible : Bool := false
  step : Option Nat := none
  showWhen : Option Condition := none
deriving DecidableEq, Repr, Inhabited

/-- A node of a form. -/
inductive FormNode where
  | field (f : FormField)
  | group (settings : GroupSettings) (nodes : List (String × FormNode))
deriving Repr, Inhabited

/-- A form: its nodes by key. -/
abbrev Form := Entries FormNode

namespace FormNode

mutual

/-- Decides whether two nodes are the same. -/
def decEq : (a b : FormNode) → Decidable (a = b)
  | .field f, b => match b with
    | .field g => if h : f = g then isTrue (by rw [h]) else isFalse (by simp [h])
    | .group .. => isFalse nofun
  | .group s x, b => match b with
    | .group t y =>
      if h : s = t then match decEqNodes x y with
        | isTrue k => isTrue (by rw [h, k])
        | isFalse k => isFalse (by simp [k])
      else isFalse (by simp [h])
    | .field _ => isFalse nofun

/-- Decides whether two lists of nodes with their keys are the same. -/
def decEqNodes : (a b : List (String × FormNode)) → Decidable (a = b)
  | [], [] => isTrue rfl
  | (j, a) :: as, (k, b) :: bs =>
    match instDecidableEqString j k, decEq a b, decEqNodes as bs with
    | isTrue i, isTrue h, isTrue t => isTrue (by rw [i, h, t])
    | isFalse h, _, _ => isFalse (by simp [h])
    | _, isFalse h, _ => isFalse (by simp [h])
    | _, _, isFalse h => isFalse (by simp [h])
  | [], _ :: _ => isFalse nofun
  | _ :: _, [] => isFalse nofun

end

instance : DecidableEq FormNode := decEq

end FormNode

end Formwork
