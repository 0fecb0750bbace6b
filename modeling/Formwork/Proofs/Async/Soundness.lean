import Formwork.Proofs.Async.Moves

/-!
# Runs, handles and ledger in step

Runs and the ledger are changed by different moves: a move that starts a run gives
out a ticket as well, and one that ends a run enters its outcome.  Tickets, runs and
handles are told apart by numbers that never come back, so what one move leaves behind
is not taken for the work of another.

* `mem_runs_cancel`, `mem_runs_startRun` and their kin — which runs are under way after
  an operation;
* `Sound` is what all moves preserve: a run that carries the current number of its
  field is the only one, and its field is pending for its value;
* `Sound.renumber` and `Sound.launch` — the two halves of starting a run: the older runs
  of the field fall behind, and the new one is alone with the current number;
* `sound_new` and `Sound.play` — so a new dispatcher is sound after all moves.
-/

namespace Formwork

namespace Dispatcher

variable (d : Dispatcher)

/-- The ticket has the number that its field is at. -/
def IsCurrent (t : Ticket) : Prop := t.generation = (d.ledger.slot t.field).generation

/-! ## What the operations do to runs and handles -/

/-- A run that is found by its number is under way. -/
theorem mem_runs_of_run? {id : Nat} {r : Run} (h : d.run? id = some r) : (id, r) ∈ d.runs := by
  obtain ⟨p, hp, rfl⟩ := Option.map_eq_some_iff.mp h
  have hid : p.1 = id := by simpa using List.find?_some hp
  exact hid ▸ List.mem_of_find?_eq_some hp

/-- A run is alive exactly if it is under way. -/
theorem isAlive_iff {id : Nat} : d.isAlive id = true ↔ ∃ r, (id, r) ∈ d.runs := by
  constructor
  · intro h
    obtain ⟨r, hr⟩ := Option.isSome_iff_exists.mp h
    exact ⟨r, d.mem_runs_of_run? hr⟩
  · intro h
    obtain ⟨r, hr⟩ := h
    simp only [isAlive, run?, Option.isSome_map, List.find?_isSome]
    exact ⟨(id, r), hr, by simp⟩

theorem mem_runs_stop {id : Nat} {p : Nat × Run} :
    p ∈ (d.stop id).runs ↔ p ∈ d.runs ∧ p.1 ≠ id := by
  simp [stop]

/-- All runs stay under way, and the one with this number is in the new phase. -/
theorem mem_runs_setPhase {id : Nat} {phase : Phase} {j : Nat} {r : Run} :
    (j, r) ∈ (d.setPhase id phase).runs ↔
      ∃ s, (j, s) ∈ d.runs ∧ r = if j = id then { s with phase } else s := by
  simp only [setPhase, List.mem_map, Prod.exists]
  constructor
  · intro h
    obtain ⟨i, s, hs, he⟩ := h
    split at he
    · rename_i hi
      obtain ⟨rfl, rfl⟩ := Prod.mk.inj he
      exact ⟨s, hi ▸ hs, by simp⟩
    · rename_i hi
      obtain ⟨rfl, rfl⟩ := Prod.mk.inj he
      exact ⟨s, hs, by rw [if_neg hi]⟩
  · intro h
    obtain ⟨s, hs, rfl⟩ := h
    refine ⟨j, s, hs, ?_⟩
    split <;> simp_all

@[simp] theorem cancel_ledger (field : String) : (d.cancel field).ledger = d.ledger := by
  unfold cancel
  split <;> rfl

@[simp] theorem cancel_nextRun (field : String) : (d.cancel field).nextRun = d.nextRun := by
  unfold cancel
  split <;> rfl

@[simp] theorem cancel_hasScheduler (field : String) :
    (d.cancel field).hasScheduler = d.hasScheduler := by
  unfold cancel
  split <;> rfl

/-- All runs stay under way but the one that the field has in hand. -/
theorem mem_runs_cancel {field : String} {p : Nat × Run} :
    p ∈ (d.cancel field).runs ↔ p ∈ d.runs ∧ some p.1 ≠ d.handles.get? field := by
  unfold cancel
  cases d.handles.get? field with
  | none => simp
  | some id => simp [stop]

/-- The field has no run in hand then, and every other field keeps its own. -/
theorem get?_handles_cancel (field other : String) :
    (d.cancel field).handles.get? other =
      if field = other then none else d.handles.get? other := by
  unfold cancel
  cases h : d.handles.get? field with
  | none =>
      by_cases hf : field = other
      · simp [← hf, h]
      · simp [hf]
  | some id => exact Entries.get?_erase ..

section StartRun

variable {d} (hd : d.hasScheduler = true) {field : String} {validator : ValidatorRef}
  {value : Value} {delay : Nat}

include hd

theorem startRun_ledger :
    (d.startRun field validator value delay).ledger = (d.ledger.start field value).2 := by
  simp [startRun, hd]

theorem startRun_nextRun :
    (d.startRun field validator value delay).nextRun = d.nextRun + 1 := by
  simp [startRun, hd]

theorem startRun_handles :
    (d.startRun field validator value delay).handles = d.handles.put field d.nextRun := by
  simp [startRun, hd]

theorem startRun_hasScheduler :
    (d.startRun field validator value delay).hasScheduler = true := by
  simp only [startRun, hd, if_true]
  cases d.handles.get? field <;> exact hd

/-- The run is added to those under way, and the one before it that its field had in hand is
stopped. -/
theorem mem_runs_startRun {p : Nat × Run} :
    p ∈ (d.startRun field validator value delay).runs ↔
      (p ∈ d.runs ∧ some p.1 ≠ d.handles.get? field) ∨
        p = (d.nextRun, ⟨(d.ledger.start field value).1, validator, delay, .scheduled⟩) := by
  simp only [startRun, hd, if_true]
  cases d.handles.get? field with
  | none => simp
  | some id => simp [stop]

end StartRun

/-! ## What all moves preserve -/

/-- Runs, handles and ledger are in step.  Runs have numbers of their own; a handle
leads to the current run of its field, if that is under way; and a run that carries the
current number of its field is alone in that, the field pending for its value. -/
structure Sound : Prop where
  hasScheduler : d.hasScheduler = true
  run_lt : ∀ {id r}, (id, r) ∈ d.runs → id < d.nextRun
  run_unique : ∀ {id r s}, (id, r) ∈ d.runs → (id, s) ∈ d.runs → r.ticket = s.ticket
  handle_lt : ∀ {field id}, d.handles.get? field = some id → id < d.nextRun
  handle_current : ∀ {field id r}, d.handles.get? field = some id → (id, r) ∈ d.runs →
    r.ticket.field = field ∧ d.IsCurrent r.ticket
  generation_le : ∀ {id r}, (id, r) ∈ d.runs →
    r.ticket.generation ≤ (d.ledger.slot r.ticket.field).generation
  slot_current : ∀ {id r}, (id, r) ∈ d.runs → d.IsCurrent r.ticket →
    d.ledger.slot r.ticket.field = ⟨r.ticket.generation, some r.ticket.value, .pending⟩
  current_unique : ∀ {i j r s}, (i, r) ∈ d.runs → (j, s) ∈ d.runs →
    r.ticket.field = s.ticket.field → d.IsCurrent r.ticket → d.IsCurrent s.ticket → i = j

/-- A new dispatcher is sound: nothing is under way. -/
theorem sound_new (config : DispatchConfig) : (new config).Sound where
  hasScheduler := rfl
  run_lt := by simp [new]
  run_unique := by simp [new]
  handle_lt := by simp [new]
  handle_current := by simp [new]
  generation_le := by simp [new]
  slot_current := by simp [new]
  current_unique := by simp [new]

namespace Sound

variable {d} {e : Dispatcher}

/-- Ending runs, moving them on and dropping handles does no harm. -/
theorem mono (h : d.Sound)
    (hruns : ∀ {id r}, (id, r) ∈ e.runs → ∃ s, (id, s) ∈ d.runs ∧ r.ticket = s.ticket)
    (hhandles : ∀ {field id}, e.handles.get? field = some id → d.handles.get? field = some id)
    (hledger : e.ledger = d.ledger) (hnext : e.nextRun = d.nextRun)
    (hscheduler : e.hasScheduler = d.hasScheduler) : e.Sound where
  hasScheduler := hscheduler.trans h.hasScheduler
  run_lt := by
    intro id r hr
    obtain ⟨s, hs, _⟩ := hruns hr
    rw [hnext]
    exact h.run_lt hs
  run_unique := by
    intro id r s hr hs
    obtain ⟨r', hr', hrt⟩ := hruns hr
    obtain ⟨s', hs', hst⟩ := hruns hs
    rw [hrt, hst]
    exact h.run_unique hr' hs'
  handle_lt := by
    intro field id hid
    rw [hnext]
    exact h.handle_lt (hhandles hid)
  handle_current := by
    intro field id r hid hr
    obtain ⟨s, hs, hrs⟩ := hruns hr
    rw [hrs, IsCurrent, hledger]
    exact h.handle_current (hhandles hid) hs
  generation_le := by
    intro id r hr
    obtain ⟨s, hs, hrs⟩ := hruns hr
    rw [hrs, hledger]
    exact h.generation_le hs
  slot_current := by
    intro id r hr hcur
    obtain ⟨s, hs, hrs⟩ := hruns hr
    rw [hrs, IsCurrent, hledger] at hcur
    rw [hrs, hledger]
    exact h.slot_current hs hcur
  current_unique := by
    intro i j r s hr hs hfield hrc hsc
    obtain ⟨r', hr', hrt⟩ := hruns hr
    obtain ⟨s', hs', hst⟩ := hruns hs
    rw [hrt, IsCurrent, hledger] at hrc
    rw [hst, IsCurrent, hledger] at hsc
    exact h.current_unique hr' hs' (by rw [← hrt, ← hst, hfield]) hrc hsc

/-- To cancel a field takes away a run and its handle, and leaves the rest sound. -/
theorem cancel (h : d.Sound) (field : String) : (d.cancel field).Sound := by
  refine h.mono ?_ ?_ (d.cancel_ledger field) (d.cancel_nextRun field)
    (d.cancel_hasScheduler field)
  · intro id r hr
    exact ⟨r, (d.mem_runs_cancel.mp hr).1, rfl⟩
  · intro other id hid
    rw [d.get?_handles_cancel] at hid
    split at hid
    · cases hid
    · exact hid

/-- To let go of fields takes away handles only. -/
theorem release (h : d.Sound) (fields : List String) : (d.release fields).2.Sound := by
  refine h.mono (fun {_ r} hr => ⟨r, hr, rfl⟩) ?_ rfl rfl rfl
  intro field id hid
  have hfold : (if field ∈ fields then none else d.handles.get? field) = some id :=
    (Entries.get?_foldl_erase ..).symm.trans hid
  split at hfold
  · cases hfold
  · exact hfold

/-- A run that goes on keeps its ticket, on which all of this depends. -/
theorem setPhase (h : d.Sound) (id : Nat) (phase : Phase) : (d.setPhase id phase).Sound := by
  refine h.mono ?_ (fun hid => hid) rfl rfl rfl
  intro j r hr
  obtain ⟨s, hs, rfl⟩ := d.mem_runs_setPhase.mp hr
  refine ⟨s, hs, ?_⟩
  split <;> rfl

theorem stop (h : d.Sound) (id : Nat) : (d.stop id).Sound :=
  h.mono (fun {_ r} hr => ⟨r, (d.mem_runs_stop.mp hr).1, rfl⟩) (fun hid => hid) rfl rfl rfl

/-- The slot of a field without a handle may change if its number goes beyond the numbers
of all runs of the field: these are out of date from then on. -/
theorem renumber (h : d.Sound) {field : String} {l : Ledger}
    (hfree : d.handles.get? field = none)
    (hother : ∀ {other}, field ≠ other → l.slot other = d.ledger.slot other)
    (hstale : ∀ {id r}, (id, r) ∈ d.runs → r.ticket.field = field →
      r.ticket.generation < (l.slot field).generation) :
    ({ d with ledger := l } : Dispatcher).Sound := by
  -- runs of the field are behind its new number, so a current one is of another field
  have hne : ∀ {id r}, (id, r) ∈ d.runs →
      r.ticket.generation = (l.slot r.ticket.field).generation → field ≠ r.ticket.field := by
    intro id r hr hgen hf
    have hlt := hstale hr hf.symm
    rw [hf] at hlt
    omega
  have hcurrent : ∀ {id r}, (id, r) ∈ d.runs →
      r.ticket.generation = (l.slot r.ticket.field).generation → d.IsCurrent r.ticket := by
    intro id r hr hgen
    rwa [hother (hne hr hgen)] at hgen
  -- what is said of runs and handles alone does not change
  refine ⟨h.hasScheduler, h.run_lt, h.run_unique, h.handle_lt, ?_, ?_, ?_, ?_⟩
  · intro f id r hid hr
    obtain ⟨hf, hcur⟩ := h.handle_current hid hr
    have hfield : field ≠ r.ticket.field := by
      intro he
      rw [← hf, ← he, hfree] at hid
      cases hid
    refine ⟨hf, ?_⟩
    show r.ticket.generation = (l.slot r.ticket.field).generation
    rw [hother hfield]
    exact hcur
  · intro id r hr
    show r.ticket.generation ≤ (l.slot r.ticket.field).generation
    by_cases hf : field = r.ticket.field
    · have hlt := hstale hr hf.symm
      rw [← hf]
      omega
    · rw [hother hf]
      exact h.generation_le hr
  · intro id r hr hcur
    show l.slot r.ticket.field = _
    rw [hother (hne hr hcur)]
    exact h.slot_current hr (hcurrent hr hcur)
  · intro i j r s hr hs hfield hrc hsc
    exact h.current_unique hr hs hfield (hcurrent hr hrc) (hcurrent hs hsc)

/-- A field without a handle may be cleared. -/
theorem clear (h : d.Sound) {field : String} (hfree : d.handles.get? field = none) :
    ({ d with ledger := d.ledger.clear field } : Dispatcher).Sound := by
  obtain ⟨g, hslot, hle, hlt⟩ := d.ledger.slot_clear_self field
  refine h.renumber hfree (d.ledger.slot_clear_other ·) ?_
  intro id r hr hf
  rw [hslot]
  show r.ticket.generation < g
  have hrle := h.generation_le hr
  rw [hf] at hrle
  by_cases hcur : d.IsCurrent r.ticket
  · have hpending := h.slot_current hr hcur
    rw [hf] at hpending
    have := hlt (by simp [hpending])
    omega
  · have hne : r.ticket.generation ≠ (d.ledger.slot field).generation := by
      intro he
      exact hcur (by rw [IsCurrent, hf, he])
    omega

/-- A run may be added under a number of its own, with the current ticket of a field of
which no other run is current. -/
theorem launch (h : d.Sound) {r : Run}
    (hruns : ∀ {p}, p ∈ e.runs ↔ p ∈ d.runs ∨ p = (d.nextRun, r))
    (hhandles : ∀ other, e.handles.get? other =
      if r.ticket.field = other then some d.nextRun else d.handles.get? other)
    (hledger : e.ledger = d.ledger) (hnext : e.nextRun = d.nextRun + 1)
    (hscheduler : e.hasScheduler = d.hasScheduler)
    (hslot : d.ledger.slot r.ticket.field =
      ⟨r.ticket.generation, some r.ticket.value, .pending⟩)
    (halone : ∀ {id s}, (id, s) ∈ d.runs → d.IsCurrent s.ticket →
      s.ticket.field ≠ r.ticket.field) : e.Sound := by
  have hcases : ∀ {id s}, (id, s) ∈ e.runs →
      ((id, s) ∈ d.runs ∧ id < d.nextRun) ∨ (id = d.nextRun ∧ s = r) := by
    intro id s hs
    rcases hruns.mp hs with hs | hs
    · exact Or.inl ⟨hs, h.run_lt hs⟩
    · exact Or.inr (Prod.mk.inj hs)
  have hcurrent : ∀ {t}, e.IsCurrent t ↔ d.IsCurrent t := by
    intro t
    rw [IsCurrent, IsCurrent, hledger]
  constructor
  · exact hscheduler.trans h.hasScheduler
  · intro id s hs
    rw [hnext]
    rcases hcases hs with ⟨_, hlt⟩ | ⟨hid, _⟩ <;> omega
  · -- no two runs have the new number, and older ones keep apart
    intro id s t hs ht
    rcases hcases hs with ⟨hs, hslt⟩ | ⟨hsid, rfl⟩
    · rcases hcases ht with ⟨ht, _⟩ | ⟨htid, _⟩
      · exact h.run_unique hs ht
      · omega
    · rcases hcases ht with ⟨_, htlt⟩ | ⟨_, rfl⟩
      · omega
      · rfl
  · intro field id hid
    rw [hhandles] at hid
    rw [hnext]
    split at hid
    · have := Option.some.inj hid
      omega
    · have := h.handle_lt hid
      omega
  · -- the field of the new run has it in hand, and no other field has
    intro field id s hid hs
    rw [hhandles] at hid
    rw [hcurrent]
    split at hid
    · rename_i hf
      have hid := Option.some.inj hid
      rcases hcases hs with ⟨_, hlt⟩ | ⟨_, rfl⟩
      · omega
      · exact ⟨hf, by rw [IsCurrent, hslot]⟩
    · rcases hcases hs with ⟨hs, _⟩ | ⟨hnew, _⟩
      · exact h.handle_current hid hs
      · have := h.handle_lt hid
        omega
  · intro id s hs
    rw [hledger]
    rcases hcases hs with ⟨hs, _⟩ | ⟨_, rfl⟩
    · exact h.generation_le hs
    · exact Nat.le_of_eq (by rw [hslot])
  · intro id s hs hcur
    rw [hledger]
    rcases hcases hs with ⟨hs, _⟩ | ⟨_, rfl⟩
    · exact h.slot_current hs (hcurrent.mp hcur)
    · exact hslot
  · -- an older run of the field is behind, so the new one is alone
    intro i j s t hs ht hfield hsc htc
    rcases hcases hs with ⟨hs, _⟩ | ⟨hi, rfl⟩
    · rcases hcases ht with ⟨ht, _⟩ | ⟨_, rfl⟩
      · exact h.current_unique hs ht hfield (hcurrent.mp hsc) (hcurrent.mp htc)
      · exact absurd hfield (halone hs (hcurrent.mp hsc))
    · rcases hcases ht with ⟨ht, _⟩ | ⟨hj, _⟩
      · exact absurd hfield.symm (halone ht (hcurrent.mp htc))
      · rw [hi, hj]

/-- A run started for a field takes its place: the older runs of the field are out of
date, whether they were stopped or not. -/
theorem startRun (h : d.Sound) (field : String) (validator : ValidatorRef) (value : Value)
    (delay : Nat) : (d.startRun field validator value delay).Sound := by
  have hcancel := h.cancel field
  have hself : (d.ledger.start field value).2.slot field =
      ⟨(d.ledger.slot field).generation + 1, some value, .pending⟩ := by
    rw [Ledger.slot_start, if_pos rfl]
  -- the runs of the field have older tickets than the one given out now
  have hstale : ∀ {id r}, (id, r) ∈ (d.cancel field).runs → r.ticket.field = field →
      r.ticket.generation < ((d.ledger.start field value).2.slot field).generation := by
    intro id r hr hf
    have hle := hcancel.generation_le hr
    rw [cancel_ledger, hf] at hle
    rw [hself]
    exact Nat.lt_succ_of_le hle
  have hrenumber : ({ d.cancel field with ledger := (d.ledger.start field value).2 } :
      Dispatcher).Sound := by
    refine hcancel.renumber (by simp [get?_handles_cancel]) ?_ hstale
    intro other hne
    rw [cancel_ledger, Ledger.slot_start, if_neg hne]
  have hd := h.hasScheduler
  -- so the new run is the only one with the current number
  refine hrenumber.launch
    (r := ⟨(d.ledger.start field value).1, validator, delay, .scheduled⟩) ?_ ?_
    (startRun_ledger hd) ?_ ?_ hself ?_
  · intro p
    rw [mem_runs_startRun hd, mem_runs_cancel, cancel_nextRun]
  · intro other
    rw [startRun_handles hd, Entries.get?_put, cancel_nextRun, get?_handles_cancel]
    simp only [Ledger.start_fst]
    split <;> rfl
  · rw [startRun_nextRun hd, cancel_nextRun]
  · rw [startRun_hasScheduler hd, cancel_hasScheduler, hd]
  · intro id s hs hcur hf
    have hf : s.ticket.field = field := hf
    have hlt := hstale hs hf
    have hgen : s.ticket.generation =
        ((d.ledger.start field value).2.slot s.ticket.field).generation := hcur
    rw [hf] at hgen
    omega

/-- A run that comes to an end enters its outcome.  If it was current, no other run of
its field is. -/
theorem finish (h : d.Sound) {id : Nat} {r : Run} (hr : (id, r) ∈ d.runs) (o : Outcome) :
    ({ d.stop id with ledger := (d.ledger.resolve r.ticket o).2 } : Dispatcher).Sound := by
  -- an outcome changes a status and no number
  have hkeep : ∀ field, ((d.ledger.resolve r.ticket o).2.slot field).generation =
      (d.ledger.slot field).generation := by
    intro field
    rw [Ledger.slot_resolve]
    split <;> rfl
  have hcurrent : ∀ t : Ticket, t.generation =
      ((d.ledger.resolve r.ticket o).2.slot t.field).generation ↔ d.IsCurrent t := by
    intro t
    rw [hkeep, IsCurrent]
  have hstop := h.stop id
  refine ⟨hstop.hasScheduler, hstop.run_lt, hstop.run_unique, hstop.handle_lt, ?_, ?_, ?_, ?_⟩
  · intro field j s hid hs
    obtain ⟨hfield, hcur⟩ := hstop.handle_current hid hs
    exact ⟨hfield, (hcurrent _).mpr hcur⟩
  · intro j s hs
    show _ ≤ ((d.ledger.resolve r.ticket o).2.slot s.ticket.field).generation
    rw [hkeep]
    exact hstop.generation_le hs
  · intro j s hs hcur
    have hcur := (hcurrent _).mp hcur
    obtain ⟨hs, hne⟩ := d.mem_runs_stop.mp hs
    show (d.ledger.resolve r.ticket o).2.slot s.ticket.field = _
    rw [Ledger.slot_resolve, if_neg]
    · -- the slot of any other current run is not touched
      exact h.slot_current hs hcur
    · intro hmatch
      obtain ⟨hfield, hacc⟩ := hmatch
      rw [Ledger.isCurrent_eq_accepts, Slot.accepts, Bool.and_eq_true, decide_eq_true_eq] at hacc
      exact hne (h.current_unique hs hr hfield.symm hcur hacc.1.symm)
  · intro i j s t hs ht hfield hsc htc
    exact hstop.current_unique hs ht hfield ((hcurrent _).mp hsc) ((hcurrent _).mp htc)

/-- A new value leaves the dispatcher sound, whether it starts a run or ends one. -/
theorem schedule (h : d.Sound) (f : FormField) (value : Value) (delay : Nat) :
    (d.schedule f value delay).Sound := by
  unfold Dispatcher.schedule
  cases f.validator with
  | none => exact h
  | some validator =>
      dsimp only
      split
      · exact (h.cancel f.nameText).clear (by simp [get?_handles_cancel])
      · exact h.startRun ..

/-- A run that gets on leaves the dispatcher sound; if it ends, its ticket is used up with it. -/
theorem progress (h : d.Sound) (validators : Validators) (id : Nat) :
    (d.progress validators id).Sound := by
  unfold Dispatcher.progress
  cases hrun : d.run? id with
  | none => exact h
  | some r =>
      dsimp only
      split
      · exact h.setPhase ..
      · exact (h.setPhase ..).mono (fun {_ r} hr => ⟨r, hr, rfl⟩) (fun hid => hid) rfl rfl rfl
      · split
        · exact h.finish (d.mem_runs_of_run? hrun) _
        · exact h.stop id

/-- It makes no difference whether it can get on at this time. -/
theorem progressIfDue (h : d.Sound) (validators : Validators) (id : Nat) :
    (d.progressIfDue validators id).Sound := by
  unfold Dispatcher.progressIfDue
  split
  · split
    · exact h.progress ..
    · exact h
  · exact h

/-- Every move leaves a sound dispatcher sound. -/
theorem apply (h : d.Sound) (m : Move) : (m.apply d).Sound := by
  cases m with
  | onChange f value => exact h.schedule ..
  | validateNow f value => exact h.schedule ..
  | cancel field => exact h.cancel field
  | release fields => exact h.release fields
  | progress validators id => exact h.progressIfDue ..
  | pass time => exact h.mono (fun {_ r} hr => ⟨r, hr, rfl⟩) (fun hid => hid) rfl rfl rfl

/-- So do all moves together. -/
theorem play (h : d.Sound) (moves : List Move) : (d.play moves).Sound := by
  induction moves generalizing d with
  | nil => exact h
  | cons m rest ih => exact ih (h.apply m)

end Sound

end Dispatcher

end Formwork
