import Formwork.Proofs.Async.CatchUp
import Mathlib.Algebra.Order.Group.Nat
import Mathlib.Algebra.Order.Monoid.Canonical.Defs
import Mathlib.Algebra.Order.Monoid.WithTop
import Mathlib.Order.Lattice.Nat

/-!
# How long a wait lasts

While a caller waits, all runs get on, those that are waited for and those that are not.
Still the wait lasts exactly as long as the slowest of the runs that are waited for: how long
a run takes is fixed when its delay is known, other runs do not get in its way, and time goes
from one time at which something can happen straight to the next.  A run whose validator never
answers is never over, and only a wait for that run lasts as long.

* `Run.finish` — the time at which a run is over if nothing stops it, `⊤` if it never is;
  getting on does not change it;
* `Dispatcher.lastFinish` — the time at which the last of some runs is over;
* `Numbered.lastFinish_eq` — a wait ends at this time, and none of its runs is alive then; or it
  never ends, and some run is alive for ever.
-/

namespace Formwork

/-- A time, or `⊤` for one that never comes. -/
def orNever : Option Nat → WithTop Nat
  | some time => time
  | none => ⊤

theorem orNever_map_add (now : Nat) (time : Option Nat) :
    orNever (time.map (now + ·)) = now + orNever time := by
  cases time <;> rfl

/-! ## One run -/

namespace Run

variable (validators : Validators) (now : Nat) (r : Run)

/-- The time at which the run is over if nothing stops it, as it is known at this time. -/
def finish : WithTop Nat :=
  match r.phase with
  | .scheduled => (now + r.delay : Nat) + orNever (r.duration validators)
  | .delayed time => (max now time : Nat) + orNever (r.duration validators)
  | .asking time => max ↑now (orNever time)

variable {validators now r} {s : Run} {time later : Nat}

/-- To get on does not put the end off, nor bring it closer. -/
theorem finish_of_step? (h : r.step? validators now = some s) :
    s.finish validators now = r.finish validators now := by
  unfold step? at h
  split at h
  · rename_i hdue
    split at h
    · rename_i hphase
      obtain rfl := Option.some.inj h
      simp only [finish, hphase, Nat.max_eq_right (Nat.le_add_right now r.delay)]
      rfl
    · rename_i due hphase
      obtain rfl := Option.some.inj h
      have hpast : due ≤ now := by simpa [isDue, hphase] using hdue
      simp only [finish, hphase, orNever_map_add, Nat.max_eq_left hpast]
      exact max_eq_right le_self_add
    · cases h
  · rw [Option.some.inj h]

/-- A run that is over is over now. -/
theorem finish_of_step?_none (h : r.step? validators now = none) :
    r.finish validators now = now := by
  unfold step? at h
  split at h
  · rename_i hdue
    split at h
    · cases h
    · cases h
    · rename_i answer hphase
      obtain ⟨due, rfl, hpast⟩ : ∃ due, answer = some due ∧ due ≤ now := by
        simpa [isDue, hphase, Option.any_eq_true] using hdue
      simp only [finish, hphase]
      exact max_eq_left (WithTop.coe_le_coe.mpr hpast)
  · cases h

/-- To get on as far as possible does not put the end off either. -/
theorem finish_of_caughtUp? (h : r.caughtUp? validators now = some s) :
    s.finish validators now = r.finish validators now := by
  obtain ⟨first, hfirst, h⟩ := Option.bind_eq_some_iff.mp h
  obtain ⟨second, hsecond, hthird⟩ := Option.bind_eq_some_iff.mp h
  rw [finish_of_step? hthird, finish_of_step? hsecond, finish_of_step? hfirst]

/-- A run that is over after it got on as far as it could is over now. -/
theorem finish_of_caughtUp?_none (h : r.caughtUp? validators now = none) :
    r.finish validators now = now := by
  unfold caughtUp? at h
  cases hfirst : r.step? validators now with
  | none => exact finish_of_step?_none hfirst
  | some first =>
      rw [← finish_of_step? hfirst]
      rw [hfirst, Option.bind_some] at h
      cases hsecond : first.step? validators now with
      | none => exact finish_of_step?_none hsecond
      | some second =>
          rw [← finish_of_step? hsecond]
          rw [hsecond, Option.bind_some] at h
          exact finish_of_step?_none h

/-- A run that waits for a time has a fixed rest to go from then on. -/
theorem exists_finish_eq (validators : Validators) (hdue : r.dueTime? = some time) :
    ∃ rest, ∀ now, r.finish validators now = (max now time : Nat) + rest := by
  cases hphase : r.phase with
  | scheduled => simp [dueTime?, hphase] at hdue
  | delayed due =>
      obtain rfl : due = time := by simpa [dueTime?, hphase] using hdue
      exact ⟨orNever (r.duration validators), fun now => by simp only [finish, hphase]⟩
  | asking answer =>
      obtain rfl : answer = some time := by simpa [dueTime?, hphase] using hdue
      refine ⟨0, fun now => ?_⟩
      simp only [finish, hphase, orNever, add_zero]
      rfl

/-- A run that waits, and for no time that comes, is never over. -/
theorem finish_eq_top (h : r.isDue now = false) (hdue : r.dueTime? = none) (later : Nat) :
    r.finish validators later = ⊤ := by
  cases hphase : r.phase with
  | scheduled => simp [isDue, hphase] at h
  | delayed due => simp [dueTime?, hphase] at hdue
  | asking answer =>
      obtain rfl : answer = none := by simpa [dueTime?, hphase] using hdue
      simp [finish, hphase, orNever]

/-- What a run waits for is not affected by the time that passes until then. -/
theorem finish_of_not_due (h : r.isDue now = false)
    (hlater : ∀ due, r.dueTime? = some due → later ≤ due) :
    r.finish validators later = r.finish validators now := by
  cases hdue : r.dueTime? with
  | none => rw [finish_eq_top h hdue, finish_eq_top h hdue]
  | some due =>
      obtain ⟨rest, hfinish⟩ := exists_finish_eq validators hdue
      rw [hfinish, hfinish, Nat.max_eq_right (hlater due hdue),
        Nat.max_eq_right (Nat.le_of_lt (lt_of_not_due h hdue))]

/-- It is not over before. -/
theorem le_finish_of_not_due (validators : Validators) (h : r.isDue now = false)
    (hlater : ∀ due, r.dueTime? = some due → later ≤ due) : ↑later ≤ r.finish validators now := by
  cases hdue : r.dueTime? with
  | none =>
      rw [finish_eq_top h hdue]
      exact le_top
  | some due =>
      obtain ⟨rest, hfinish⟩ := exists_finish_eq validators hdue
      rw [hfinish]
      have hle : later ≤ max now due := Nat.le_trans (hlater due hdue) (Nat.le_max_right now due)
      exact (WithTop.coe_le_coe.mpr hle).trans le_self_add

end Run

namespace Dispatcher

variable {validators : Validators} {d : Dispatcher}

/-! ## The time goes on -/

/-- The moves that lie between all runs and their ends. -/
def effort (d : Dispatcher) : Nat := (d.runs.map fun p => p.2.phase.movesLeft).sum

/-- Three moves are enough for every run. -/
theorem effort_le (d : Dispatcher) : d.effort ≤ 3 * d.runs.length := by
  unfold effort
  induction d.runs with
  | nil => exact Nat.le_refl _
  | cons p rest ih =>
      have hp := p.2.phase.movesLeft_le
      simp only [List.map_cons, List.sum_cons, List.length_cons]
      omega

/-- A run that gets on as far as it can keeps its number and comes closer to its end. -/
theorem movesLeft_of_map_caughtUp? {now : Nat} (p q : Nat × Run)
    (h : (p.2.caughtUp? validators now).map (Prod.mk p.1) = some q) :
    q.2.phase.movesLeft ≤ p.2.phase.movesLeft ∧
      (p.2.isDue now = true → q.2.phase.movesLeft < p.2.phase.movesLeft) := by
  obtain ⟨s, hs, rfl⟩ := Option.map_eq_some_iff.mp h
  exact Run.movesLeft_of_caughtUp? hs

/-- When all runs get on, no more is left to do than before. -/
theorem Numbered.effort_catchUp_le (h : d.Numbered) (validators : Validators) :
    (d.catchUp validators).effort ≤ d.effort := by
  rw [effort, h.runs_catchUp]
  exact sum_filterMap_le fun p _ q hq => (movesLeft_of_map_caughtUp? p q hq).1

/-- If one of them could get on, less is left to do. -/
theorem Numbered.effort_catchUp_lt (h : d.Numbered) {p : Nat × Run} (hp : p ∈ d.runs)
    (hdue : p.2.isDue d.now = true) : (d.catchUp validators).effort < d.effort := by
  rw [effort, h.runs_catchUp]
  exact sum_filterMap_lt (fun p _ q hq => (movesLeft_of_map_caughtUp? p q hq).1) hp
    (Phase.movesLeft_pos _) fun q hq => (movesLeft_of_map_caughtUp? p q hq).2 hdue

/-- No run can get on at this time any more. -/
theorem Numbered.not_due_of_mem_catchUp (h : d.Numbered) :
    ∀ p ∈ (d.catchUp validators).runs, p.2.isDue (d.catchUp validators).now = false := by
  intro p hp
  obtain ⟨_, _, hend⟩ := h.mem_runs_catchUp.mp hp
  rw [catchUp_now]
  exact Run.not_due_of_caughtUp? hend

/-- Where time passes until something can happen, the runs come closer to their ends. -/
theorem Numbered.effort_passTo_lt (h : d.Numbered) (validators : Validators) {time : Nat}
    (hnow : d.now ≤ time) {p : Nat × Run} (hp : p ∈ d.runs) (hdue : p.2.dueTime? = some time) :
    ((d.passTo time).catchUp validators).effort < d.effort := by
  have htime : (d.passTo time).now = time := Nat.max_eq_right hnow
  refine effort_catchUp_lt (d := d.passTo time) h hp ?_
  rw [htime]
  exact Run.isDue_of_dueTime? hdue (Nat.le_refl time)

/-! ## The end of a wait -/

variable (validators) in
/-- The time at which the last of these runs is over, and the present if none is under way. -/
def lastFinish (ids : List Nat) (d : Dispatcher) : WithTop Nat :=
  ((d.runs.filter fun p => p.1 ∈ ids).map fun p => p.2.finish validators d.now).foldl max d.now

variable {ids : List Nat}

/-- The last run is over by some time exactly if all are, and this is no time of the past. -/
theorem lastFinish_le_iff {bound : WithTop Nat} : d.lastFinish validators ids ≤ bound ↔
    d.now ≤ bound ∧ ∀ p ∈ d.runs, p.1 ∈ ids → p.2.finish validators d.now ≤ bound := by
  rw [lastFinish, foldl_max_le_iff, List.forall_mem_map]
  simp only [List.mem_filter, decide_eq_true_eq, and_imp]

/-- The last run is never over exactly if some run is not. -/
theorem lastFinish_eq_top_iff : d.lastFinish validators ids = ⊤ ↔
    ∃ p ∈ d.runs, p.1 ∈ ids ∧ p.2.finish validators d.now = ⊤ := by
  rw [← not_lt_top_iff, lastFinish, foldl_max_lt_iff, List.forall_mem_map]
  simp [lt_top_iff_ne_top]

/-- Where none of the runs is alive, there is nothing to wait for. -/
theorem lastFinish_of_not_alive (h : ¬ ids.any d.isAlive) :
    d.lastFinish validators ids = d.now := by
  refine le_antisymm (lastFinish_le_iff.mpr ⟨le_refl _, fun p hp hid => ?_⟩)
    (lastFinish_le_iff.mp (le_refl _)).1
  exact absurd (List.any_eq_true.mpr ⟨p.1, hid, d.isAlive_iff.mpr ⟨p.2, hp⟩⟩) h

/-- Getting on at the present time does not put any end off, nor bring it closer. -/
theorem Numbered.lastFinish_catchUp (h : d.Numbered) :
    (d.catchUp validators).lastFinish validators ids = d.lastFinish validators ids := by
  refine eq_of_forall_ge_iff fun bound => ?_
  rw [lastFinish_le_iff, lastFinish_le_iff, catchUp_now]
  refine and_congr_right fun hnow => ?_
  constructor
  · intro hcaught p hp hid
    cases hend : p.2.caughtUp? validators d.now with
    | none =>
        rw [Run.finish_of_caughtUp?_none hend]
        exact hnow
    | some s =>
        rw [← Run.finish_of_caughtUp? hend]
        exact hcaught (p.1, s) (h.mem_runs_catchUp.mpr ⟨p.2, hp, hend⟩) hid
  · intro hruns p hp hid
    obtain ⟨r, hr, hend⟩ := h.mem_runs_catchUp.mp hp
    rw [Run.finish_of_caughtUp? hend]
    exact hruns (p.1, r) hr hid

/-- Where no run can get on yet, the time may pass until the first of them can. -/
theorem lastFinish_passTo {time : Nat} (hnow : d.now ≤ time)
    (hwait : ∀ p ∈ d.runs, p.2.isDue d.now = false)
    (hfirst : ∀ p ∈ d.runs, ∀ due, p.2.dueTime? = some due → time ≤ due)
    (halive : ids.any d.isAlive) :
    (d.passTo time).lastFinish validators ids = d.lastFinish validators ids := by
  have htime : (d.passTo time).now = time := Nat.max_eq_right hnow
  refine eq_of_forall_ge_iff fun bound => ?_
  rw [lastFinish_le_iff, lastFinish_le_iff, htime]
  have hsame : ∀ p ∈ d.runs, p.2.finish validators time = p.2.finish validators d.now :=
    fun p hp => Run.finish_of_not_due (hwait p hp) (hfirst p hp)
  constructor
  · intro hall
    refine ⟨(WithTop.coe_le_coe.mpr hnow).trans hall.1, fun p hp hid => ?_⟩
    rw [← hsame p hp]
    exact hall.2 p hp hid
  · intro hall
    obtain ⟨id, hid, halive⟩ := List.any_eq_true.mp halive
    obtain ⟨r, hr⟩ := d.isAlive_iff.mp halive
    refine ⟨?_, fun p hp hmem => ?_⟩
    · have hfinish := Run.le_finish_of_not_due validators (hwait _ hr) (hfirst _ hr)
      exact hfinish.trans (hall.2 _ hr hid)
    · rw [hsame p hp]
      exact hall.2 p hp hmem

/-- Where nothing more can happen, a run that is alive is never over. -/
theorem lastFinish_of_stuck (halive : ids.any d.isAlive)
    (hwait : ∀ p ∈ d.runs, p.2.isDue d.now = false) (hstuck : d.nextTime? = none) :
    d.lastFinish validators ids = ⊤ := by
  obtain ⟨id, hid, halive⟩ := List.any_eq_true.mp halive
  obtain ⟨r, hr⟩ := d.isAlive_iff.mp halive
  have hnone : r.dueTime? = none :=
    List.filterMap_eq_nil_iff.mp (List.min?_eq_none_iff.mp hstuck) _ hr
  exact lastFinish_eq_top_iff.mpr ⟨(id, r), hr, hid, Run.finish_eq_top (hwait _ hr) hnone d.now⟩

/-- The next time is that of some run, and no other run waits for an earlier one. -/
theorem exists_of_nextTime? {time : Nat} (h : d.nextTime? = some time) :
    (∃ p ∈ d.runs, p.2.dueTime? = some time) ∧
      ∀ p ∈ d.runs, ∀ due, p.2.dueTime? = some due → time ≤ due := by
  obtain ⟨hfirst, hleast⟩ := List.min?_eq_some_iff.mp h
  refine ⟨List.mem_filterMap.mp hfirst, fun p hp due hdue => ?_⟩
  exact hleast due (List.mem_filterMap.mpr ⟨p, hp, hdue⟩)

/-- A wait with steps enough ends when the last of its runs is over, and not before; and if a
run is alive then, none of it ever ends. -/
theorem Numbered.lastFinish_eq_waitThrough (h : d.Numbered) {steps : Nat}
    (hsteps : (d.catchUp validators).effort < steps) :
    d.lastFinish validators ids = if ids.any (waitThrough validators ids steps d).isAlive then ⊤
      else ((waitThrough validators ids steps d).now : WithTop Nat) := by
  induction steps generalizing d with
  | zero => omega
  | succ steps ih =>
      rw [waitThrough]
      split
      · have hcaught := h.catchUp validators
        rw [← h.lastFinish_catchUp]
        dsimp only
        split
        · rename_i hstill
          cases hnext : (d.catchUp validators).nextTime? with
          | none =>
              rw [lastFinish_of_stuck hstill h.not_due_of_mem_catchUp hnext, if_pos hstill]
          | some time =>
              -- no run can get on yet, so time passes, and the run that comes first has less to do
              obtain ⟨⟨p, hp, hdue⟩, hfirst⟩ := exists_of_nextTime? hnext
              have hnow := Run.lt_of_not_due (h.not_due_of_mem_catchUp p hp) hdue
              have hless := hcaught.effort_passTo_lt validators (Nat.le_of_lt hnow) hp hdue
              rw [← lastFinish_passTo (Nat.le_of_lt hnow) h.not_due_of_mem_catchUp hfirst hstill]
              exact ih hcaught (by omega)
        · rename_i hnone
          exact lastFinish_of_not_alive hnone
      · rename_i hnone
        exact lastFinish_of_not_alive hnone

/-- A wait ends when the last of its runs is over, and not before; and if a run is alive then,
it never ends. -/
theorem Numbered.lastFinish_eq (h : d.Numbered) (validators : Validators) (ids : List Nat) :
    d.lastFinish validators ids = if ids.any (d.waitFor validators ids).isAlive then ⊤
      else ((d.waitFor validators ids).now : WithTop Nat) := by
  refine h.lastFinish_eq_waitThrough ?_
  have hcaught := h.effort_catchUp_le validators
  have hfew := d.effort_le
  omega

end Dispatcher

end Formwork
