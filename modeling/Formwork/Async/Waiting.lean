import Formwork.Async.Dispatcher

/-!
# Waiting for outside checks

While a caller waits, runs get on.  All that can be done at the present time is
done first; only then does time pass, straight to the time when the next run can
get on.  So what a wait comes to does not depend on how fast anything is.

A wait for a validator that never answers does not end.  All else that can happen
happens all the same, and then nothing does any more: that is what is given here in
place of an end, with the run still alive.

* `Dispatcher.waitFor` waits until certain runs are over;
* `Dispatcher.settle` and `Dispatcher.settleFields` wait for the runs of all fields
  or of some;
* `Dispatcher.advance` waits for a span of time.
-/

namespace Formwork

namespace Dispatcher

variable (validators : Validators)

/-- A run gets on if it can at the present time. -/
def progressIfDue (d : Dispatcher) (id : Nat) : Dispatcher :=
  match d.run? id with
  | some r => if r.isDue d.now then d.progress validators id else d
  | none => d

/-- A run gets on as far as it can at the present time; it has three phases. -/
def catchUpRun (d : Dispatcher) (id : Nat) : Dispatcher :=
  let d := d.progressIfDue validators id
  let d := d.progressIfDue validators id
  d.progressIfDue validators id

/-- All runs get on as far as they can at the present time. -/
def catchUp (d : Dispatcher) : Dispatcher :=
  (d.runs.map Prod.fst).foldl (catchUpRun validators) d

/-- The next time when a run can get on, if there is one. -/
def nextTime? (d : Dispatcher) : Option Nat := (d.runs.filterMap fun p => p.2.dueTime?).min?

/-- Lets time pass until none of these runs is alive, through at most `steps` times
when a run gets on. -/
def waitThrough (ids : List Nat) : Nat → Dispatcher → Dispatcher
  | 0, d => d
  | steps + 1, d =>
    if ids.any d.isAlive then
      let d := d.catchUp validators
      if ids.any d.isAlive then match d.nextTime? with
        | some t => waitThrough ids steps (d.passTo t)
        | none => d
      else d
    else d

/-- Waits until none of these runs is alive, or until nothing can happen any more.  Every
run can get on at three times. -/
def waitFor (d : Dispatcher) (ids : List Nat) : Dispatcher :=
  waitThrough validators ids (3 * d.runs.length + 1) d

/-- Waits for the runs of the named fields. -/
def settleFields (d : Dispatcher) (fields : List String) : Dispatcher :=
  let (ids, d) := d.release fields
  d.waitFor validators ids

/-- Waits for the runs of all fields. -/
def settle (d : Dispatcher) : Dispatcher := d.settleFields validators d.handles.keys

/-- Lets time pass up to `time`, through at most `steps` times when a run gets on. -/
def advanceThrough (time : Nat) : Nat → Dispatcher → Dispatcher
  | 0, d => d.passTo time
  | steps + 1, d =>
    let d := d.catchUp validators
    match d.nextTime? with
    | some t => if t < time then advanceThrough time steps (d.passTo t) else d.passTo time
    | none => d.passTo time

/-- Waits for a span of time.  A run that could get on just at its end has to wait. -/
def advance (d : Dispatcher) (ms : Nat) : Dispatcher :=
  if ms = 0 then d else advanceThrough validators (d.now + ms) (3 * d.runs.length + 1) d

end Dispatcher

end Formwork
