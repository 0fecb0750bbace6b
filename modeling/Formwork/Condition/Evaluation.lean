import Formwork.Condition.Basic
import Formwork.Pattern.Engine
import Formwork.Value.Coercion
import Formwork.Value.Path

/-!
# Evaluating conditions

A condition is evaluated against one snapshot, from left to right, and no further
than the outcome needs: a group of which all members are to hold stops at the
first that does not, a group of which any is to hold at the first that does.  A
fault met on the way ends the evaluation.

* `Condition.explain` gives the trace of an evaluation: every rule that was
  evaluated, with the value it saw, inside the groups as they were written;
* `Condition.evaluate` gives its outcome.
-/

namespace Formwork

/-- What can go wrong in the evaluation of a condition. -/
inductive EvaluationFault where
  | unknownOperator (tag : String)
  | missingOperand (op : Operator) (field : String)
  | invalidPattern (pattern : String)
  | conflictingGroup
deriving DecidableEq, Repr

/-- What is said about a group that sets both of its lists. -/
def conflictingGroupMessage : String := "a condition group may set either 'and' or 'or', not both"

def EvaluationFault.message : EvaluationFault → String
  | .unknownOperator tag => s!"Unknown operator '{tag}'"
  | .missingOperand op field =>
    "Operator '" ++ op.tag ++ s!"' on field '{field}' requires a comparison value"
  | .invalidPattern pattern => s!"Invalid pattern '{pattern}': {patternFaultText}"
  | .conflictingGroup => s!"Malformed condition: {conflictingGroupMessage}"

/-- A record of an evaluation: the values that rules saw, and every outcome. -/
inductive Trace where
  | rule (r : Rule) (actual : Option Value) (outcome : Bool)
  | all (children : List Trace) (outcome : Bool)
  | any (children : List Trace) (outcome : Bool)
deriving Repr, Inhabited

def Trace.outcome : Trace → Bool
  | .rule _ _ outcome => outcome
  | .all _ outcome => outcome
  | .any _ outcome => outcome

/-- Both sides have a numeric view, and the views compare. -/
def compareNumbers (r : Binary64 → Binary64 → Bool) (actual : Option Value) (expected : Value) :
    Bool :=
  match actual.bind Value.number?, expected.number? with
  | some a, some b => r a b
  | _, _ => false

/-- A list holds the value, or the text view of anything else holds its text view. -/
def containsValue (actual : Option Value) (expected : Value) : Bool :=
  match actual with
  | some (.list items) => items.any fun item => item.looseEq expected
  | some v => occursIn expected.displayChars v.displayChars
  | none => false

variable [PatternEngine]

namespace Rule

/-- Compares the value found at the path of a rule; a missing value is null where
equality or a pattern is asked for. -/
def outcome (r : Rule) (actual : Option Value) : Except EvaluationFault Bool :=
  let withOperand (f : Value → Except EvaluationFault Bool) : Except EvaluationFault Bool :=
    match r.value with
    | some expected => f expected
    | none => .error (.missingOperand r.op r.field)
  match r.op with
  | .present => .ok (actual.any fun v => !v.isBlank)
  | .absent => .ok (actual.all Value.isBlank)
  | .unknown tag => .error (.unknownOperator tag)
  | .equal => withOperand fun e => .ok ((actual.getD .null).looseEq e)
  | .notEqual => withOperand fun e => .ok !((actual.getD .null).looseEq e)
  | .greater => withOperand fun e => .ok (compareNumbers (fun a b => b.lt a) actual e)
  | .atLeast => withOperand fun e => .ok (compareNumbers (fun a b => b.le a) actual e)
  | .less => withOperand fun e => .ok (compareNumbers Binary64.lt actual e)
  | .atMost => withOperand fun e => .ok (compareNumbers Binary64.le actual e)
  | .contains => withOperand fun e => .ok (containsValue actual e)
  | .matching => withOperand fun e =>
    match matchPattern? e.display (actual.getD .null).display with
    | some b => .ok b
    | none => .error (.invalidPattern e.display)

end Rule

namespace Condition

mutual

/-- Evaluates a condition and records how. -/
def explain (values : Snapshot) : Condition → Except EvaluationFault Trace
  | .rule r =>
    let actual := values.resolve? r.field
    match r.outcome actual with
    | .ok b => .ok (.rule r actual b)
    | .error e => .error e
  | .all items => match explainAll values items with
    | .ok (children, b) => .ok (.all children b)
    | .error e => .error e
  | .any items => match explainAny values items with
    | .ok (children, b) => .ok (.any children b)
    | .error e => .error e
  | .unset => .ok (.all [] true)
  | .conflicting _ _ => .error .conflictingGroup

/-- Evaluates conditions up to the first that does not hold. -/
def explainAll (values : Snapshot) : List Condition → Except EvaluationFault (List Trace × Bool)
  | [] => .ok ([], true)
  | c :: rest => match explain values c with
    | .error e => .error e
    | .ok t =>
      if t.outcome then match explainAll values rest with
        | .ok (ts, b) => .ok (t :: ts, b)
        | .error e => .error e
      else .ok ([t], false)

/-- Evaluates conditions up to the first that holds. -/
def explainAny (values : Snapshot) : List Condition → Except EvaluationFault (List Trace × Bool)
  | [] => .ok ([], false)
  | c :: rest => match explain values c with
    | .error e => .error e
    | .ok t =>
      if t.outcome then .ok ([t], true)
      else match explainAny values rest with
        | .ok (ts, b) => .ok (t :: ts, b)
        | .error e => .error e

end

/-- The outcome of a condition. -/
def evaluate (c : Condition) (values : Snapshot) : Except EvaluationFault Bool :=
  match c.explain values with
  | .ok t => .ok t.outcome
  | .error e => .error e

end Condition

/-- Whether a control under a condition is shown.  Without a condition it is, and
a condition that faults does not hide it. -/
def isVisible (condition : Option Condition) (values : Snapshot) : Bool :=
  match condition with
  | none => true
  | some c => match c.evaluate values with
    | .ok b => b
    | .error _ => true

end Formwork
