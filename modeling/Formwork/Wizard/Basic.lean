import Formwork.Number.Shortest
import Formwork.Wizard.Report

/-!
# Wizards

A wizard leads through the steps of a schema.  Going forward is allowed only from a
step whose report is valid; going back always is; and a jump reaches the steps
before the current one, and those up to the one after the furthest step that has
passed.

* `Wizard.next`, `Wizard.previous` and `Wizard.goTo` are the ways to move;
* `Wizard.submitEnabled` tells whether the form can be sent off.
-/

namespace Formwork

/-- What came of a wish to move. -/
inductive Navigation where
  | moved (start finish : Nat)
  | stayed (step : Nat)
  | blocked (report : Report)
deriving DecidableEq, Repr

/-- A way through the steps of a schema: the current step, and the furthest step that
has passed, zero if none has. -/
structure Wizard where
  schema : Schema
  policy : UnverifiedPolicy := .allow
  current : Nat := 1
  validated : Nat := 0
deriving Repr

namespace Wizard

variable [PatternEngine] (w : Wizard)

/-- The number of steps. -/
def total : Nat := w.schema.totalSteps

def isFirst : Bool := w.current = 1

def isLast : Bool := w.current = w.total

/-- What outside validators are known to say, seen with the policy of the wizard. -/
def view (ledger : Ledger) : AsyncView := ⟨ledger, w.policy⟩

/-- The fields of the current step. -/
def currentFields : List FormField := w.schema.fieldsOfStep w.current

/-- The report on a step. -/
def reportOnStep (step : Nat) (values : Snapshot) (ledger : Ledger) : Report :=
  w.schema.reportOnStep step values (w.view ledger)

/-- The report on the whole form. -/
def reportOnForm (values : Snapshot) (ledger : Ledger) : Report :=
  w.schema.reportOnForm values (w.view ledger)

/-- The form can be sent off: on the last step, and if the form asks for it only when
all is valid. -/
def submitEnabled (values : Snapshot) (ledger : Ledger) : Bool :=
  w.isLast && (!w.schema.info.disableOnInvalid || (w.reportOnForm values ledger).isValid)

/-- Goes on one step if the current one passes; there is nothing after the last one. -/
def next (values : Snapshot) (ledger : Ledger) : Navigation × Wizard :=
  let report := w.reportOnStep w.current values ledger
  if report.isValid then
    let passed := { w with validated := max w.validated w.current }
    if w.total ≤ w.current then (.stayed w.current, passed)
    else (.moved w.current (w.current + 1), { passed with current := w.current + 1 })
  else (.blocked report, w)

/-- Goes back one step. -/
def previous : Navigation × Wizard :=
  if w.current ≤ 1 then (.stayed w.current, w)
  else (.moved w.current (w.current - 1), { w with current := w.current - 1 })

/-- The steps that a jump may go to. -/
def canReach (step : Nat) : Bool :=
  1 ≤ step && step ≤ w.total && step ≤ max w.current (w.validated + 1)

/-- Jumps to a step, if it can be reached. -/
def goTo (step : Nat) : Navigation × Wizard :=
  if !w.canReach step || step = w.current then (.stayed w.current, w)
  else (.moved w.current step, { w with current := step })

/-- How far the current step is on the way to the last one, as a single-precision
number counted in units of its format. -/
def progress : Nat :=
  let single (num den : Nat) : Nat := (FloatFormat.binary32.nearest num den).getD 0
  single (single w.current 1) (single w.total 1)

/-- The progress in digits. -/
def progressText : String :=
  String.ofList (FloatFormat.binary32.shortest .upward w.progress).plain

end Wizard

end Formwork
