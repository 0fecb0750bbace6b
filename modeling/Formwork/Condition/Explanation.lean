import Formwork.Condition.Evaluation

/-!
# Explanations

A trace read aloud: the rules that decided the outcome, each with the value it
saw.  A group that one child decided is told by that child alone; otherwise its
children are joined by AND or OR, and an OR inside an AND stands in parentheses.
-/

namespace Formwork

/-- How a value is shown: whole numbers of ordinary size in digits, other values
as JSON, and a word for none. -/
def shownValue : Option Value → String
  | none => "nothing"
  | some (.number n) =>
    let x := n.toBinary64
    if x.isWhole && x.isBelowPowerOfTen 15 then String.ofList (integerText x.truncate)
    else String.ofList n.chars
  | some v => v.compact

namespace Trace

/-- How tightly a trace holds together when it is written out. -/
def precedence : Trace → Nat
  | .any .. => 1
  | .all .. => 2
  | .rule .. => 9

/-- A trace that one child may decide, or a rule. -/
def isSingle : Trace → Bool
  | .all children outcome => !outcome && !children.isEmpty
  | .any children outcome => outcome && !children.isEmpty
  | .rule .. => true

/-- How a rule is told. -/
def ruleText (r : Rule) (actual : Option Value) : String :=
  let seen := r.field ++ " (was " ++ shownValue actual ++ ")"
  if r.op.takesOperand then seen ++ " " ++ r.op.symbol ++ " " ++ shownValue r.value
  else seen ++ " " ++ r.op.symbol

/-- Puts a text in parentheses if the trace inside binds less tightly than what surrounds it. -/
def parenthesized (t : Trace) (outer : Nat) (body : String) : String :=
  if t.precedence < outer && body.toList.contains ' ' && !t.isSingle then "(" ++ body ++ ")"
  else body

mutual

/-- The text of a trace inside something of precedence `outer`. -/
def textWithin (outer : Nat) : Trace → String
  | .rule r actual outcome => parenthesized (.rule r actual outcome) outer (ruleText r actual)
  | .all children outcome => parenthesized (.all children outcome) outer <|
    if children.isEmpty then "always"
    else match (if outcome then none else firstText 2 false children) with
      | some text => text
      | none => " AND ".intercalate (textsWithin 2 children)
  | .any children outcome => parenthesized (.any children outcome) outer <|
    if children.isEmpty then "never"
    else match (if outcome then firstText 1 true children else none) with
      | some text => text
      | none => " OR ".intercalate (textsWithin 1 children)

/-- The text of the first trace with this outcome. -/
def firstText (outer : Nat) (outcome : Bool) : List Trace → Option String
  | [] => none
  | t :: rest =>
    if t.outcome = outcome then some (textWithin outer t) else firstText outer outcome rest

/-- The texts of several traces. -/
def textsWithin (outer : Nat) : List Trace → List String
  | [] => []
  | t :: rest => textWithin outer t :: textsWithin outer rest

end

/-- The explanation of a trace. -/
def text (t : Trace) : String := t.textWithin 0

end Trace

end Formwork
