import Formwork.Proofs.Async.Soundness

/-!
# What a move does

A move changes a dispatcher in one of few ways, whichever caller or run it comes from:
a request with a blank value forgets the field, another one starts a run, and a run has
three ways to get on.  Everything that holds after all moves is proved by these ways,
and by what the moves before made of requests.

* `Move.request?` — what a move asks to have checked, with the delay that is due;
* `Does` and `does_apply` — all that a move can do, with the conditions on which it does it;
* `play_config`, `now_le_play` — settings never change, and time never goes back;
* `Asks` and `exists_run_of_asks` — a validator is asked about the value of a run whose delay is
  over, and at no other time.
-/

namespace Formwork

/-- What a caller asks to have checked: by which validator, and after which delay. -/
structure CheckRequest where
  validator : ValidatorRef
  value : Value
  delay : Nat
deriving DecidableEq, Repr

namespace Move

variable (config : DispatchConfig) (field : String)

/-- The request for a field that a move makes; only a field with a validator has any. -/
def request? : Move → Option CheckRequest
  | .onChange f value =>
    if f.nameText = field then
      f.validator.map fun v => ⟨v, value, f.debounceMs.getD config.debounceMs⟩
    else none
  | .validateNow f value =>
    if f.nameText = field then f.validator.map fun v => ⟨v, value, 0⟩ else none
  | _ => none

/-- The move takes away from the field what was given for it before. -/
def Withdraws (m : Move) : Prop := m.Gives field ∨ m = .cancel field

variable {config field}

/-- A move gives a field a value exactly if it requests a check of one. -/
theorem gives_iff (config : DispatchConfig) {m : Move} :
    m.Gives field ↔ (m.request? config field).isSome := by
  cases m with
  | onChange f value => by_cases hf : f.nameText = field <;> simp [Gives, request?, hf]
  | validateNow f value => by_cases hf : f.nameText = field <;> simp [Gives, request?, hf]
  | _ => simp [Gives, request?]

/-- A request for a check comes with a value for its field. -/
theorem gives_of_request? {m : Move} {q : CheckRequest} (h : m.request? config field = some q) :
    m.Gives field := by
  rw [gives_iff config, h]
  rfl

/-- A move makes requests for one field at most. -/
theorem eq_of_gives {m : Move} {other : String} (h : m.Gives field) (k : m.Gives other) :
    field = other := by
  cases m with
  | onChange f value => exact h.2.symm.trans k.2
  | validateNow f value => exact h.2.symm.trans k.2
  | _ => exact h.elim

/-- A value for one field withdraws nothing from another. -/
theorem not_withdraws_of_gives {m : Move} {other : String} (h : m.Gives field)
    (hne : other ≠ field) : ¬ m.Withdraws other := by
  intro hw
  rcases hw with hother | rfl
  · exact hne (eq_of_gives hother h)
  · exact h

/-- A move that gives a field no value requests no check of it. -/
theorem request?_eq_none {m : Move} (h : ¬ m.Gives field) : m.request? config field = none := by
  rw [gives_iff config, Option.not_isSome_iff_eq_none] at h
  exact h

end Move

namespace Dispatcher

/-- Forgets a field and stops its run. -/
def forget (d : Dispatcher) (field : String) : Dispatcher :=
  { d.cancel field with ledger := (d.cancel field).ledger.clear field }

/-- What a move can do to a dispatcher. -/
inductive Does (d : Dispatcher) : Move → Dispatcher → Prop
  | nothing {m} : (∀ field, ¬ m.Withdraws field) → Does d m d
  | forgets {m field q} : m.request? d.config field = some q → q.value.isBlank = true →
      Does d m (d.forget field)
  | starts {m field q} : m.request? d.config field = some q → q.value.isBlank = false →
      Does d m (d.startRun field q.validator q.value q.delay)
  | cancels {field} : Does d (.cancel field) (d.cancel field)
  | releases {fields} : Does d (.release fields) (d.release fields).2
  | delays {validators id r} : (id, r) ∈ d.runs → r.phase = .scheduled →
      Does d (.progress validators id) (d.setPhase id (.delayed (d.now + r.delay)))
  | asks {validators id r time} : (id, r) ∈ d.runs → r.phase = .delayed time → time ≤ d.now →
      Does d (.progress validators id)
        { d.setPhase id
            (.asking ((validators r.validator r.ticket.value).duration.map (d.now + ·))) with
          inquiries := d.inquiries ++ [⟨r.validator, r.ticket.field, r.ticket.value, d.now⟩] }
  | ends {validators id r o} : (id, r) ∈ d.runs →
      (validators r.validator r.ticket.value).outcome = some o →
      Does d (.progress validators id)
        { d.stop id with ledger := (d.ledger.resolve r.ticket o).2 }
  | breaksOff {validators id r} : (id, r) ∈ d.runs →
      (validators r.validator r.ticket.value).outcome = none →
      Does d (.progress validators id) (d.stop id)
  | passes {time} : Does d (.pass time) (d.passTo time)

section Does

variable (d : Dispatcher)

/-- What becomes of a value that is to be checked: a field without a validator is passed over, a
blank value cancels and clears, and every other value starts a run if it can be carried out. -/
theorem does_schedule {m : Move} {f : FormField} {value : Value} {delay : Nat}
    (hrequest : ∀ field, m.request? d.config field =
      if f.nameText = field then f.validator.map fun v => ⟨v, value, delay⟩ else none)
    (hcancel : ∀ field, m ≠ .cancel field) : Does d m (d.schedule f value delay) := by
  have hself := hrequest f.nameText
  rw [if_pos rfl] at hself
  unfold schedule
  cases hv : f.validator with
  | none =>
      refine .nothing ?_
      intro field h
      rcases h with h | h
      · rw [Move.gives_iff d.config, hrequest, hv] at h
        simp at h
      · exact hcancel field h
  | some v =>
      rw [hv] at hself
      dsimp only
      split
      · rename_i hblank
        exact .forgets hself hblank
      · rename_i hblank
        exact .starts hself (Bool.eq_false_iff.mpr hblank)

/-- What a run does that is told to get on: nothing if it is over or cannot get on yet, and
otherwise what its phase says. -/
theorem does_progress (validators : Validators) (id : Nat) :
    Does d (.progress validators id) (d.progressIfDue validators id) := by
  have hnothing : Does d (.progress validators id) d := by
    refine .nothing ?_
    intro field h
    rcases h with h | h
    · exact h
    · cases h
  unfold progressIfDue
  cases hrun : d.run? id with
  | none => exact hnothing
  | some r =>
      have hr := d.mem_runs_of_run? hrun
      dsimp only
      split
      · rename_i hdue
        rw [progress, hrun]
        dsimp only
        split
        · rename_i hphase
          exact .delays hr hphase
        · rename_i time hphase
          have htime : time ≤ d.now := by simpa [Run.isDue, hphase] using hdue
          exact .asks hr hphase htime
        · split
          · rename_i o ho
            exact .ends hr ho
          · rename_i ho
            exact .breaksOff hr ho
      · exact hnothing

/-- Every move does one of these. -/
theorem does_apply (m : Move) : Does d m (m.apply d) := by
  cases m with
  | onChange f value => exact d.does_schedule (fun _ => rfl) nofun
  | validateNow f value => exact d.does_schedule (fun _ => rfl) nofun
  | cancel field => exact .cancels
  | release fields => exact .releases
  | progress validators id => exact d.does_progress validators id
  | pass time => exact .passes

end Does

/-! ## What stays the same -/

section Kept

variable (d : Dispatcher)

@[simp] theorem cancel_config (field : String) : (d.cancel field).config = d.config := by
  unfold cancel
  split <;> rfl

@[simp] theorem cancel_now (field : String) : (d.cancel field).now = d.now := by
  unfold cancel
  split <;> rfl

@[simp] theorem cancel_inquiries (field : String) :
    (d.cancel field).inquiries = d.inquiries := by
  unfold cancel
  split <;> rfl

variable (field : String) (validator : ValidatorRef) (value : Value) (delay : Nat)

@[simp] theorem startRun_config :
    (d.startRun field validator value delay).config = d.config := by
  unfold startRun
  cases d.handles.get? field <;> dsimp only <;> split <;> rfl

@[simp] theorem startRun_now : (d.startRun field validator value delay).now = d.now := by
  unfold startRun
  cases d.handles.get? field <;> dsimp only <;> split <;> rfl

@[simp] theorem startRun_inquiries :
    (d.startRun field validator value delay).inquiries = d.inquiries := by
  unfold startRun
  cases d.handles.get? field <;> dsimp only <;> split <;> rfl

end Kept

namespace Does

variable {d e : Dispatcher} {m : Move}

/-- No move changes the settings. -/
theorem config_eq (h : Does d m e) : e.config = d.config := by
  cases h with
  | forgets => exact cancel_config ..
  | starts => exact startRun_config ..
  | cancels => exact cancel_config ..
  | _ => rfl

/-- No move goes back in time. -/
theorem now_le (h : Does d m e) : d.now ≤ e.now := by
  cases h with
  | forgets => exact Nat.le_of_eq (cancel_now ..).symm
  | starts => exact Nat.le_of_eq (startRun_now ..).symm
  | cancels => exact Nat.le_of_eq (cancel_now ..).symm
  | passes => exact Nat.le_max_left ..
  | _ => exact Nat.le_refl _

/-- A move leaves all inquiries as they are, or it is one of a run whose delay is over. -/
theorem inquiries_eq (h : Does d m e) : e.inquiries = d.inquiries ∨
    ∃ id r time, (id, r) ∈ d.runs ∧ r.phase = .delayed time ∧ time ≤ d.now ∧
      e.inquiries =
        d.inquiries ++ [⟨r.validator, r.ticket.field, r.ticket.value, d.now⟩] := by
  cases h with
  | forgets => exact Or.inl (cancel_inquiries ..)
  | starts => exact Or.inl (startRun_inquiries ..)
  | cancels => exact Or.inl (cancel_inquiries ..)
  | asks hr hphase htime => exact Or.inr ⟨_, _, _, hr, hphase, htime, rfl⟩
  | _ => exact Or.inl rfl

end Does

variable (d : Dispatcher)

/-- The settings are the same after all moves. -/
theorem play_config (moves : List Move) : (d.play moves).config = d.config := by
  induction moves generalizing d with
  | nil => rfl
  | cons m rest ih => exact (ih _).trans (does_apply d m).config_eq

/-- After some moves it is not earlier than before them. -/
theorem now_le_play (moves : List Move) : d.now ≤ (d.play moves).now := by
  induction moves generalizing d with
  | nil => exact Nat.le_refl _
  | cons m rest ih => exact Nat.le_trans (does_apply d m).now_le (ih _)

/-- It is not earlier at a later place among the moves. -/
theorem now_mono {earlier later : List Move} (h : earlier <+: later) :
    (d.play earlier).now ≤ (d.play later).now := by
  obtain ⟨more, rfl⟩ := h
  rw [play_append]
  exact now_le_play ..

/-- What was asked stays on record; later inquiries come after it. -/
theorem inquiries_prefix_play (moves : List Move) :
    d.inquiries <+: (d.play moves).inquiries := by
  induction moves generalizing d with
  | nil => exact List.prefix_rfl
  | cons m rest ih =>
      refine List.IsPrefix.trans ?_ (ih _)
      rcases (does_apply d m).inquiries_eq with heq | ⟨_, _, _, _, _, _, heq⟩
      · exact ⟨[], by rw [heq, List.append_nil]⟩
      · exact ⟨_, heq.symm⟩

/-- With this move a validator is asked. -/
def Asks (m : Move) (i : Inquiry) : Prop := (m.apply d).inquiries = d.inquiries ++ [i]

/-- A validator is asked for a run whose delay is over, about the value of the run. -/
theorem exists_run_of_asks {m : Move} {i : Inquiry} (h : d.Asks m i) :
    ∃ id r time, (id, r) ∈ d.runs ∧ r.phase = .delayed time ∧ time ≤ d.now ∧
      i = ⟨r.validator, r.ticket.field, r.ticket.value, d.now⟩ := by
  rcases (does_apply d m).inquiries_eq with heq | ⟨id, r, time, hr, hphase, htime, heq⟩
  · rw [Asks, heq] at h
    simp at h
  · rw [Asks, heq] at h
    have hi := List.singleton_inj.mp (List.append_cancel_left h)
    exact ⟨id, r, time, hr, hphase, htime, hi.symm⟩

end Dispatcher

end Formwork
