import Formwork.Async.Waiting
import Formwork.Wizard.Basic

/-!
# Going on after outside checks

Where the fields of a step have outside validators, going on first has them checked:
a value that nothing is known about goes to its validator at once, the runs of all
shown fields of the step are waited for, and only then the step is judged by what is
known.
-/

namespace Formwork

/-- Has the value of a field checked unless it is blank or something is known about it. -/
def Dispatcher.checkIfUnknown (known : Ledger) (values : Snapshot) (d : Dispatcher)
    (f : FormField) : Dispatcher :=
  match values.resolve? f.nameText with
  | some v =>
    if !v.isBlank && known.statusFor f.nameText v = .idle then d.validateNow f v else d
  | none => d

namespace Wizard

variable [PatternEngine] (w : Wizard)

/-- The shown fields of the current step that have a validator. -/
def awaitedFields (values : Snapshot) : List FormField :=
  w.currentFields.filter fun f => f.validator.isSome && f.isShown values

/-- Has the values of the current step checked, waits, and goes on if the step passes.  Where a
validator never answers the wait does not end; what is given then is what a caller finds who
gives up when nothing can happen any more. -/
def nextAwaiting (validators : Validators) (values : Snapshot) (d : Dispatcher) :
    Navigation × Wizard × Dispatcher :=
  let fields := w.awaitedFields values
  let d := fields.foldl (Dispatcher.checkIfUnknown d.ledger values) d
  let d := d.settleFields validators (fields.map FormField.nameText)
  let (navigation, w) := w.next values d.ledger
  (navigation, w, d)

end Wizard

end Formwork
