import Formwork.Async.Ledger
import Formwork.Definition.Field

/-!
# The dispatcher of outside checks

A new value of a field with a validator starts a run: the run waits out the delay
of the field, so that a value on which the user still works is not checked, then
asks the validator, and at last enters the outcome into the ledger.  A further
value of the field stops the run before it; other fields are not affected.

Everything here is a single step: what a caller asks for, and `progress`, by which
one run gets on.  How time passes between the steps is not decided here.
-/

namespace Formwork

/-- How a validator deals with a value: the time it takes, if it ever answers, and what
it comes to; it may also break off without an outcome. -/
structure Response where
  duration : Option Nat
  outcome : Option Outcome
deriving DecidableEq, Repr

/-- The validators outside the form. -/
abbrev Validators := ValidatorRef → Value → Response

/-- How far a run has got.  A delay ends at a time; an answer comes at a time, or never. -/
inductive Phase where
  | scheduled
  | delayed (time : Nat)
  | asking (time : Option Nat)
deriving DecidableEq, Repr

/-- One check of a value under way. -/
structure Run where
  ticket : Ticket
  validator : ValidatorRef
  delay : Nat
  phase : Phase
deriving DecidableEq, Repr

namespace Run

/-- The time that a run waits for.  A new run waits for none, and one whose validator
never answers for none that comes. -/
def dueTime? (r : Run) : Option Nat :=
  match r.phase with
  | .scheduled => none
  | .delayed time => some time
  | .asking time => time

/-- At this time the run can get on. -/
def isDue (now : Nat) (r : Run) : Bool :=
  match r.phase with
  | .scheduled => true
  | .delayed time => time ≤ now
  | .asking time => time.any fun t => t ≤ now

end Run

/-- A validator was asked about a value of a field. -/
structure Inquiry where
  validator : ValidatorRef
  field : String
  value : Value
  time : Nat
deriving DecidableEq, Repr

/-- The settings of a dispatcher: the delay for fields without one of their own, and
what to do with a field that nobody could decide on. -/
structure DispatchConfig where
  debounceMs : Nat := 300
  policy : UnverifiedPolicy := .allow
deriving DecidableEq, Repr

/-- A dispatcher: what is known, the runs under way by number, for every field the
number of the run that a new value stops, and all inquiries made so far.  Without
a scheduler to carry them out no runs can be started. -/
structure Dispatcher where
  config : DispatchConfig := {}
  hasScheduler : Bool := true
  now : Nat := 0
  ledger : Ledger := []
  nextRun : Nat := 0
  runs : List (Nat × Run) := []
  handles : Entries Nat := []
  inquiries : List Inquiry := []
deriving Repr

namespace Dispatcher

variable (d : Dispatcher)

/-- Stops a run; one that is over already is not affected. -/
def stop (id : Nat) : Dispatcher := { d with runs := d.runs.filter fun p => p.1 ≠ id }

/-- Stops the run of a field, if there is one.  What is known about the field stays. -/
def cancel (field : String) : Dispatcher :=
  match d.handles.get? field with
  | some id => { d.stop id with handles := d.handles.erase field }
  | none => d

/-- Starts a run for a value that is not blank. -/
def startRun (field : String) (validator : ValidatorRef) (value : Value) (delay : Nat) :
    Dispatcher :=
  let (ticket, ledger) := d.ledger.start field value
  if d.hasScheduler then
    let stopped := match d.handles.get? field with
      | some id => d.stop id
      | none => d
    { stopped with
      ledger
      nextRun := d.nextRun + 1
      runs := stopped.runs ++ [(d.nextRun, ⟨ticket, validator, delay, .scheduled⟩)]
      handles := d.handles.put field d.nextRun }
  else { d with ledger := (ledger.resolve ticket .undecided).2 }

/-- Sees to the check of a new value; a blank one needs none, and ends the check of
the value before it. -/
def schedule (f : FormField) (value : Value) (delay : Nat) : Dispatcher :=
  match f.validator with
  | none => d
  | some validator =>
    if value.isBlank then
      let d := d.cancel f.nameText
      { d with ledger := d.ledger.clear f.nameText }
    else d.startRun f.nameText validator value delay

/-- A new value came: it is checked after the delay of the field. -/
def onChange (f : FormField) (value : Value) : Dispatcher :=
  d.schedule f value (f.debounceMs.getD d.config.debounceMs)

/-- Has a value checked without delay. -/
def validateNow (f : FormField) (value : Value) : Dispatcher := d.schedule f value 0

/-- Lets go of the runs of the named fields, so that nothing stops them any more, and
gives their numbers. -/
def release (fields : List String) : List Nat × Dispatcher :=
  (fields.filterMap d.handles.get?,
    { d with handles := fields.foldl Entries.erase d.handles })

/-- The run with a number. -/
def run? (id : Nat) : Option Run := (d.runs.find? fun p => p.1 = id).map Prod.snd

/-- The run is neither over nor stopped. -/
def isAlive (id : Nat) : Bool := (d.run? id).isSome

/-- The run goes over into another phase. -/
def setPhase (id : Nat) (phase : Phase) : Dispatcher :=
  { d with runs := d.runs.map fun p => if p.1 = id then (id, { p.2 with phase }) else p }

/-- A run gets on: its delay begins, its validator is asked, or it ends. -/
def progress (validators : Validators) (id : Nat) : Dispatcher :=
  match d.run? id with
  | none => d
  | some r => match r.phase with
    | .scheduled => d.setPhase id (.delayed (d.now + r.delay))
    | .delayed _ =>
      let answer := (validators r.validator r.ticket.value).duration.map fun time => d.now + time
      { d.setPhase id (.asking answer) with
        inquiries := d.inquiries ++ [⟨r.validator, r.ticket.field, r.ticket.value, d.now⟩] }
    | .asking _ => match (validators r.validator r.ticket.value).outcome with
      | some o => { d.stop id with ledger := (d.ledger.resolve r.ticket o).2 }
      | none => d.stop id

/-- Time passes up to a later time. -/
def passTo (time : Nat) : Dispatcher := { d with now := max d.now time }

end Dispatcher

end Formwork
