import Formwork.Proofs.Async.Steps
import Formwork.Proofs.Lists
import Mathlib.Data.List.Nodup

/-!
# What runs do at one time

A caller who waits has every run get on as far as it can before time passes.  A run that gets
on does so by itself: what becomes of it depends on how far it has got, on its validator and on
the time, and not on the other runs or on the order in which their turns come.

* `Run.step?` and `Run.caughtUp?` — what becomes of a run in one move, and as far as it can get;
* `Run.not_due_of_caughtUp?` — a run that is not over then cannot get on at this time;
* `Dispatcher.Numbered` — no two runs have one number; `Numbered.play` says that it is so after
  all moves;
* `Numbered.runs_catchUp` — all runs get on, each by itself.
-/

namespace Formwork

/-- The moves that lie between a phase and the end of its run. -/
def Phase.movesLeft : Phase → Nat
  | .scheduled => 3
  | .delayed _ => 2
  | .asking _ => 1

/-- A run makes three moves at most. -/
theorem Phase.movesLeft_le (phase : Phase) : phase.movesLeft ≤ 3 := by
  cases phase <;> simp [movesLeft]

theorem Phase.movesLeft_pos (phase : Phase) : 0 < phase.movesLeft := by
  cases phase <;> simp [movesLeft]

/-! ## One run -/

namespace Run

variable (validators : Validators) (now : Nat) (r : Run)

/-- How long the validator takes for the value of the run, if it ever answers. -/
def duration : Option Nat := (validators r.validator r.ticket.value).duration

/-- The run after it got on, if it could; none if it is over then. -/
def step? : Option Run :=
  if r.isDue now then match r.phase with
    | .scheduled => some { r with phase := .delayed (now + r.delay) }
    | .delayed _ => some { r with phase := .asking ((r.duration validators).map (now + ·)) }
    | .asking _ => none
  else some r

/-- The run after it got on as far as it could; none if it is over then. -/
def caughtUp? : Option Run :=
  (r.step? validators now).bind fun s => (s.step? validators now).bind (step? validators now)

variable {validators now r} {s : Run} {time : Nat}

/-- A run that cannot get on yet waits for a later time. -/
theorem lt_of_not_due (h : r.isDue now = false) (hdue : r.dueTime? = some time) : now < time := by
  cases hphase : r.phase with
  | scheduled => simp [isDue, hphase] at h
  | delayed due =>
      obtain rfl : due = time := by simpa [dueTime?, hphase] using hdue
      simpa [isDue, hphase] using h
  | asking answer =>
      obtain rfl : answer = some time := by simpa [dueTime?, hphase] using hdue
      simpa [isDue, hphase] using h

/-- A run can get on from the time on that it waits for. -/
theorem isDue_of_dueTime? (hdue : r.dueTime? = some time) (h : time ≤ now) :
    r.isDue now = true := by
  refine (Bool.not_eq_false _).mp fun hnot => ?_
  exact absurd (lt_of_not_due hnot hdue) (Nat.not_lt.mpr h)

/-- A run that waits for no time can get on at once, unless it waits for ever. -/
theorem isDue_of_dueTime?_eq_none (hdue : r.dueTime? = none) (h : r.phase ≠ .asking none)
    (now : Nat) : r.isDue now = true := by
  cases hphase : r.phase with
  | scheduled => simp [isDue, hphase]
  | delayed time => simp [dueTime?, hphase] at hdue
  | asking answer =>
      obtain rfl : answer = none := by simpa [dueTime?, hphase] using hdue
      exact absurd hphase h

/-- A run that cannot get on yet stays as it is. -/
theorem step?_of_not_due (h : r.isDue now = false) : r.step? validators now = some r := by
  rw [step?, h]
  rfl

/-- A run that gets on is one move closer to its end, unless it cannot get on yet and stays where
it is. -/
theorem movesLeft_of_step? (h : r.step? validators now = some s) :
    r.isDue now = false ∧ s = r ∨ s.phase.movesLeft + 1 = r.phase.movesLeft := by
  unfold step? at h
  split at h
  · split at h
    · rename_i hphase
      obtain rfl := Option.some.inj h
      exact .inr (by rw [hphase]; rfl)
    · rename_i hphase
      obtain rfl := Option.some.inj h
      exact .inr (by rw [hphase]; rfl)
    · cases h
  · rename_i hdue
    exact .inl ⟨Bool.eq_false_iff.mpr hdue, (Option.some.inj h).symm⟩

/-- Three moves are enough: a run that is not over then cannot get on yet. -/
theorem not_due_of_caughtUp? (h : r.caughtUp? validators now = some s) :
    s.isDue now = false := by
  obtain ⟨first, hfirst, h⟩ := Option.bind_eq_some_iff.mp h
  obtain ⟨second, hsecond, hthird⟩ := Option.bind_eq_some_iff.mp h
  have hkeeps {a b : Run} (hdue : a.isDue now = false) (h : a.step? validators now = some b) :
      b.isDue now = false := by
    obtain rfl := Option.some.inj ((step?_of_not_due hdue).symm.trans h)
    exact hdue
  rcases movesLeft_of_step? hfirst with ⟨hdue, rfl⟩ | hfirst'
  · exact hkeeps (hkeeps hdue hsecond) hthird
  · rcases movesLeft_of_step? hsecond with ⟨hdue, rfl⟩ | hsecond'
    · exact hkeeps hdue hthird
    · rcases movesLeft_of_step? hthird with ⟨hdue, rfl⟩ | hthird'
      · exact hdue
      · have hfew := r.phase.movesLeft_le
        have hsome := s.phase.movesLeft_pos
        omega

/-- A run that gets on as far as it can comes no further from its end, and closer to it if it
could get on at all. -/
theorem movesLeft_of_caughtUp? (h : r.caughtUp? validators now = some s) :
    s.phase.movesLeft ≤ r.phase.movesLeft ∧
      (r.isDue now = true → s.phase.movesLeft < r.phase.movesLeft) := by
  obtain ⟨first, hfirst, h⟩ := Option.bind_eq_some_iff.mp h
  obtain ⟨second, hsecond, hthird⟩ := Option.bind_eq_some_iff.mp h
  have hle {a b : Run} (h : a.step? validators now = some b) :
      b.phase.movesLeft ≤ a.phase.movesLeft := by
    rcases movesLeft_of_step? h with ⟨_, rfl⟩ | h
    · exact Nat.le_refl _
    · omega
  have hlater : s.phase.movesLeft ≤ first.phase.movesLeft :=
    Nat.le_trans (hle hthird) (hle hsecond)
  refine ⟨Nat.le_trans hlater (hle hfirst), fun hdue => ?_⟩
  rcases movesLeft_of_step? hfirst with ⟨hnot, _⟩ | hcloser
  · rw [hdue] at hnot
    cases hnot
  · omega

end Run

/-! ## All runs -/

namespace Dispatcher

variable (validators : Validators) (d : Dispatcher)

/-- No two runs have one number. -/
def Numbered : Prop := (d.runs.map Prod.fst).Nodup

@[simp] theorem progressIfDue_now (id : Nat) : (d.progressIfDue validators id).now = d.now := by
  unfold progressIfDue progress
  split
  · split
    · split
      · rfl
      · split
        · rfl
        · rfl
        · split <;> rfl
    · rfl
  · rfl

variable {validators d}

/-- Under one number there is one run. -/
theorem Numbered.eq_of_run? (h : d.Numbered) {id : Nat} {r : Run} (hr : d.run? id = some r)
    {p : Nat × Run} (hp : p ∈ d.runs) (hid : p.1 = id) : p.2 = r := by
  have hmem := d.mem_runs_of_run? hr
  subst hid
  exact congrArg Prod.snd (List.inj_on_of_nodup_map h hp hmem rfl)

/-- What becomes of a run when something happens to the run with a number. -/
def onRun (id : Nat) (change : Run → Option Run) (p : Nat × Run) : Option (Nat × Run) :=
  if p.1 = id then (change p.2).map (Prod.mk p.1) else some p

/-- Where the run with this number stays as it is, all runs do. -/
theorem filterMap_onRun_of_stays {id : Nat} {change : Run → Option Run} {runs : List (Nat × Run)}
    (h : ∀ p ∈ runs, p.1 = id → change p.2 = some p.2) :
    runs.filterMap (onRun id change) = runs := by
  have hsome : runs.filterMap (onRun id change) = runs.filterMap some := by
    refine List.filterMap_congr fun p hp => ?_
    unfold onRun
    split
    · rename_i hid
      rw [h p hp hid]
      rfl
    · rfl
  rw [hsome, List.filterMap_some]

/-- To put a run into a phase is to change the one run with this number. -/
theorem runs_setPhase_eq {id : Nat} {phase : Phase} {change : Run → Option Run}
    (h : ∀ p ∈ d.runs, p.1 = id → change p.2 = some { p.2 with phase }) :
    (d.setPhase id phase).runs = d.runs.filterMap (onRun id change) := by
  rw [setPhase, ← List.filterMap_eq_map]
  refine List.filterMap_congr fun p hp => ?_
  unfold onRun
  split
  · rename_i hid
    simp [h p hp hid, hid]
  · rename_i hid
    simp [hid]

/-- To stop a run is to take away the one run with this number. -/
theorem runs_stop_eq {id : Nat} {change : Run → Option Run}
    (h : ∀ p ∈ d.runs, p.1 = id → change p.2 = none) :
    (d.stop id).runs = d.runs.filterMap (onRun id change) := by
  rw [stop, ← List.filterMap_eq_filter]
  refine List.filterMap_congr fun p hp => ?_
  unfold onRun
  split
  · rename_i hid
    simp [h p hp hid, hid]
  · rename_i hid
    simp [Option.guard, hid]

/-- A run that is told to get on does so, if it can, and no other run does anything. -/
theorem Numbered.runs_progressIfDue (h : d.Numbered) (id : Nat) :
    (d.progressIfDue validators id).runs =
      d.runs.filterMap (onRun id (Run.step? validators d.now)) := by
  unfold progressIfDue
  cases hrun : d.run? id with
  | none =>
      refine (filterMap_onRun_of_stays fun p hp hid => ?_).symm
      -- a run with this number would be found
      have halive : d.isAlive id = true := d.isAlive_iff.mpr ⟨p.2, hid ▸ hp⟩
      simp [isAlive, hrun] at halive
  | some r =>
      dsimp only
      split
      · rename_i hdue
        rw [progress, hrun]
        dsimp only
        split
        · rename_i hphase
          refine runs_setPhase_eq fun p hp hid => ?_
          rw [h.eq_of_run? hrun hp hid, Run.step?, if_pos hdue, hphase]
        · rename_i hphase
          refine runs_setPhase_eq fun p hp hid => ?_
          rw [h.eq_of_run? hrun hp hid, Run.step?, if_pos hdue, hphase]
          rfl
        · rename_i hphase
          have hstop : (d.stop id).runs =
              d.runs.filterMap (onRun id (Run.step? validators d.now)) := by
            refine runs_stop_eq fun p hp hid => ?_
            rw [h.eq_of_run? hrun hp hid, Run.step?, if_pos hdue, hphase]
          split
          · -- whether it comes to an outcome or breaks off, it is over
            exact hstop
          · exact hstop
      · rename_i hdue
        refine (filterMap_onRun_of_stays fun p hp hid => ?_).symm
        rw [h.eq_of_run? hrun hp hid]
        exact Run.step?_of_not_due (Bool.eq_false_iff.mpr hdue)

/-- A run keeps its number. -/
theorem onRun_fst {id : Nat} {change : Run → Option Run} (p q : Nat × Run)
    (h : onRun id change p = some q) : q.1 = p.1 := by
  unfold onRun at h
  split at h
  · obtain ⟨_, _, rfl⟩ := Option.map_eq_some_iff.mp h
    rfl
  · rw [Option.some.inj h]

/-- Where runs keep their numbers or go, no two come to have one number. -/
theorem Numbered.filterMap (h : d.Numbered) {e : Dispatcher}
    {change : Nat × Run → Option (Nat × Run)} (hchange : ∀ p q, change p = some q → q.1 = p.1)
    (he : e.runs = d.runs.filterMap change) : e.Numbered := by
  unfold Numbered
  rw [he]
  exact (map_filterMap_sublist hchange d.runs).nodup h

/-- Two changes of one run are one change. -/
theorem onRun_bind (id : Nat) (first second : Run → Option Run) (p : Nat × Run) :
    (onRun id first p).bind (onRun id second) = onRun id (fun r => (first r).bind second) p := by
  unfold onRun
  split
  · rename_i hid
    cases hfirst : first p.2 <;> simp [hid, hfirst]
  · rename_i hid
    simp [hid]

theorem Numbered.progressIfDue (h : d.Numbered) (validators : Validators) (id : Nat) :
    (d.progressIfDue validators id).Numbered :=
  h.filterMap onRun_fst (h.runs_progressIfDue id)

@[simp] theorem catchUpRun_now (id : Nat) : (d.catchUpRun validators id).now = d.now := by
  simp [catchUpRun]

/-- One run gets on as far as it can, and no other run does anything. -/
theorem Numbered.runs_catchUpRun (h : d.Numbered) (id : Nat) :
    (d.catchUpRun validators id).runs =
      d.runs.filterMap (onRun id (Run.caughtUp? validators d.now)) := by
  have hfirst := h.progressIfDue validators id
  have hsecond := hfirst.progressIfDue validators id
  rw [catchUpRun, hsecond.runs_progressIfDue, hfirst.runs_progressIfDue, h.runs_progressIfDue]
  simp only [progressIfDue_now, List.filterMap_filterMap, onRun_bind]
  rfl

theorem Numbered.catchUpRun (h : d.Numbered) (id : Nat) :
    (d.catchUpRun validators id).Numbered :=
  h.filterMap onRun_fst (h.runs_catchUpRun id)

/-- Each of these runs gets on as far as it can, one after the other. -/
theorem Numbered.runs_foldl_catchUpRun (h : d.Numbered) {ids : List Nat} (hids : ids.Nodup) :
    (ids.foldl (Dispatcher.catchUpRun validators) d).runs = d.runs.filterMap fun p =>
      if p.1 ∈ ids then (p.2.caughtUp? validators d.now).map (Prod.mk p.1) else some p := by
  induction ids generalizing d with
  | nil => simp
  | cons id rest ih =>
      obtain ⟨hnew, hrest⟩ := List.nodup_cons.mp hids
      rw [List.foldl_cons, ih (h.catchUpRun id) hrest, h.runs_catchUpRun, List.filterMap_filterMap]
      refine List.filterMap_congr fun p _ => ?_
      unfold onRun
      by_cases hid : p.1 = id
      · subst hid
        cases p.2.caughtUp? validators d.now <;> simp [hnew]
      · simp [hid]

/-- No time passes while runs get on. -/
theorem foldl_catchUpRun_now (ids : List Nat) :
    (ids.foldl (Dispatcher.catchUpRun validators) d).now = d.now := by
  induction ids generalizing d with
  | nil => rfl
  | cons id rest ih => rw [List.foldl_cons, ih, catchUpRun_now]

@[simp] theorem catchUp_now : (d.catchUp validators).now = d.now := foldl_catchUpRun_now _

/-- At one time, every run gets on as far as it can, whatever the others do. -/
theorem Numbered.runs_catchUp (h : d.Numbered) : (d.catchUp validators).runs =
    d.runs.filterMap fun p => (p.2.caughtUp? validators d.now).map (Prod.mk p.1) := by
  rw [catchUp, h.runs_foldl_catchUpRun h]
  refine List.filterMap_congr fun p hp => ?_
  rw [if_pos (List.mem_map_of_mem hp)]

/-- When all runs have got on, no two have one number. -/
theorem Numbered.catchUp (h : d.Numbered) (validators : Validators) :
    (d.catchUp validators).Numbered := by
  refine h.filterMap (fun p q hq => ?_) h.runs_catchUp
  obtain ⟨_, _, rfl⟩ := Option.map_eq_some_iff.mp hq
  rfl

/-- The runs that are left then are those that are not over after they got on. -/
theorem Numbered.mem_runs_catchUp (h : d.Numbered) {p : Nat × Run} :
    p ∈ (d.catchUp validators).runs ↔
      ∃ r, (p.1, r) ∈ d.runs ∧ r.caughtUp? validators d.now = some p.2 := by
  rw [h.runs_catchUp, List.mem_filterMap]
  constructor
  · intro hp
    obtain ⟨q, hq, hqp⟩ := hp
    obtain ⟨s, hs, rfl⟩ := Option.map_eq_some_iff.mp hqp
    exact ⟨q.2, hq, hs⟩
  · intro hp
    obtain ⟨r, hr, hs⟩ := hp
    exact ⟨(p.1, r), hr, by rw [hs]; rfl⟩

/-! ## Numbers after all moves -/

/-- A run in another phase has the number that it had. -/
theorem numbers_setPhase (d : Dispatcher) (id : Nat) (phase : Phase) :
    (d.setPhase id phase).runs.map Prod.fst = d.runs.map Prod.fst := by
  rw [setPhase, List.map_map]
  refine List.map_congr_left fun p _ => ?_
  by_cases hid : p.1 = id <;> simp [hid]

theorem numbers_stop_sublist (d : Dispatcher) (id : Nat) :
    ((d.stop id).runs.map Prod.fst).Sublist (d.runs.map Prod.fst) :=
  List.filter_sublist.map _

/-- To cancel a field leaves numbers apart. -/
theorem Numbered.cancel (h : d.Numbered) (field : String) : (d.cancel field).Numbered := by
  unfold Dispatcher.cancel
  split
  · exact (numbers_stop_sublist d _).nodup h
  · exact h

/-- A run is started under a number that no run had before it. -/
theorem Numbered.startRun (h : d.Numbered) (hsound : d.Sound) (field : String)
    (validator : ValidatorRef) (value : Value) (delay : Nat) :
    (d.startRun field validator value delay).Numbered := by
  have hadd {runs : List (Nat × Run)} (hruns : (runs.map Prod.fst).Sublist (d.runs.map Prod.fst))
      (r : Run) : ((runs ++ [(d.nextRun, r)]).map Prod.fst).Nodup := by
    rw [List.map_append, List.map_singleton, List.nodup_append]
    refine ⟨hruns.nodup h, List.nodup_singleton _, ?_⟩
    intro id hid next hnext
    obtain rfl := List.mem_singleton.mp hnext
    obtain ⟨p, hp, rfl⟩ := List.mem_map.mp (hruns.subset hid)
    exact Nat.ne_of_lt (hsound.run_lt hp)
  unfold Numbered Dispatcher.startRun
  simp only [hsound.hasScheduler, if_true]
  split
  · exact hadd (numbers_stop_sublist d _) _
  · exact hadd (List.Sublist.refl _) _

/-- No move gives two runs one number. -/
theorem Numbered.apply (h : d.Numbered) (hsound : d.Sound) (m : Move) :
    (m.apply d).Numbered := by
  have hdoes := does_apply d m
  generalize m.apply d = e at hdoes ⊢
  cases hdoes with
  | nothing => exact h
  | forgets => exact h.cancel _
  | starts => exact h.startRun hsound ..
  | cancels => exact h.cancel _
  | releases => exact h
  | delays =>
      unfold Numbered
      rwa [numbers_setPhase]
  | asks =>
      show ((d.setPhase _ _).runs.map Prod.fst).Nodup
      rwa [numbers_setPhase]
  | ends => exact (numbers_stop_sublist d _).nodup h
  | breaksOff => exact (numbers_stop_sublist d _).nodup h
  | passes => exact h

/-- So no two runs have one number after all moves. -/
theorem Numbered.play (h : d.Numbered) (hsound : d.Sound) (moves : List Move) :
    (d.play moves).Numbered := by
  induction moves generalizing d with
  | nil => exact h
  | cons m rest ih => exact ih (h.apply hsound m) (hsound.apply m)

theorem numbered_new (config : DispatchConfig) : (new config).Numbered := List.nodup_nil

end Dispatcher

end Formwork
