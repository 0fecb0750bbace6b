import Formwork.Proofs.Async.CatchUp
import Formwork.Proofs.Async.Pending

/-!
# The last value of a field decides

Runs of one field may overlap: one that a caller waits for is not stopped by the next
value, and its answer may come last of all.  Still the answer that stays is the one about
the last value, because each field has one current run at most and that is the run of
its last value.

* `lastRequest` — what the moves asked for last, for one field;
* `restingStatus` — what such a request comes to in the end;
* `Follows` — what every move preserves: the current run of a field is that of its last
  request, and the field is pending or has what the request comes to;
* `exists_quiet_end` — all runs can be waited out;
* `last_value_wins` — when the runs of a field are over, its status is what its last
  request comes to.
-/

namespace Formwork

/-- If a validator answers in this move, it says what the function gives for the value. -/
def Move.AnswersBy (outcome : ValidatorRef → Value → Outcome) : Move → Prop
  | .progress validators _ =>
    ∀ ref value, (validators ref value).outcome = some (outcome ref value)
  | _ => True

/-- A validator that comes to an outcome does not break off. -/
theorem Move.AnswersBy.answers {outcome : ValidatorRef → Value → Outcome} {m : Move}
    (h : m.AnswersBy outcome) : m.Answers := by
  cases m with
  | progress validators id =>
      intro ref value
      rw [h ref value]
      rfl
  | _ => trivial

/-- The last request for a field among the moves. -/
def lastRequest (config : DispatchConfig) (moves : List Move) (field : String) :
    Option CheckRequest :=
  (moves.filterMap (Move.request? config field)).getLast?

/-- The last request is that of the last move, if it makes one, and else that of the moves before.
-/
theorem lastRequest_snoc (config : DispatchConfig) (moves : List Move) (m : Move)
    (field : String) : lastRequest config (moves ++ [m]) field =
      (m.request? config field).or (lastRequest config moves field) := by
  unfold lastRequest
  rw [List.filterMap_append]
  cases h : m.request? config field with
  | none => simp [h]
  | some q => simp [h]

/-- Quiet moves make no requests. -/
theorem lastRequest_append_quiet {validators : Validators} {more : List Move}
    (hquiet : ∀ m ∈ more, m.IsQuiet validators) (config : DispatchConfig) (moves : List Move)
    (field : String) :
    lastRequest config (moves ++ more) field = lastRequest config moves field := by
  have hnone : more.filterMap (Move.request? config field) = [] := by
    rw [List.filterMap_eq_nil_iff]
    intro m hm
    have hm := hquiet m hm
    cases m with
    | progress => rfl
    | pass => rfl
    | _ => exact hm.elim
  rw [lastRequest, List.filterMap_append, hnone, List.append_nil, lastRequest]

/-- What a request comes to: nothing is known without one, nor of a blank value, and of
another value what the validator says about it. -/
def restingStatus (outcome : ValidatorRef → Value → Outcome) : Option CheckRequest → AsyncStatus
  | none => .idle
  | some q => if q.value.isBlank then .idle else (outcome q.validator q.value).status

/-- An outcome does not change the number of any field. -/
theorem Ledger.generation_slot_resolve (l : Ledger) (t : Ticket) (o : Outcome)
    (field : String) :
    ((l.resolve t o).2.slot field).generation = (l.slot field).generation := by
  rw [slot_resolve]
  split <;> rfl

namespace Dispatcher

/-- The field is where its last request has brought it: a run that is current for it is
that of the request, and what is known about it, if anything, is what the request
comes to. -/
structure Follows (outcome : ValidatorRef → Value → Outcome) (d : Dispatcher)
    (field : String) (last : Option CheckRequest) : Prop where
  current : ∀ {id r}, (id, r) ∈ d.runs → r.ticket.field = field → d.IsCurrent r.ticket →
    ∃ q, last = some q ∧ q.value.isBlank = false ∧ q.validator = r.validator ∧
      q.value = r.ticket.value
  status : d.ledger.status field = .pending ∨
    d.ledger.status field = restingStatus outcome last

/-- At first there is no request, and nothing is known. -/
theorem follows_new (outcome : ValidatorRef → Value → Outcome) (config : DispatchConfig)
    (field : String) : (new config).Follows outcome field none where
  current := by simp [new]
  status := Or.inr rfl

namespace Follows

variable {outcome : ValidatorRef → Value → Outcome} {d e : Dispatcher} {field : String}
  {last : Option CheckRequest}

/-- Ending runs of a field and moving them on does no harm, as long as its slot stays. -/
theorem mono (h : d.Follows outcome field last)
    (hruns : ∀ {id r}, (id, r) ∈ e.runs → r.ticket.field = field →
      ∃ s, (id, s) ∈ d.runs ∧ r.ticket = s.ticket ∧ r.validator = s.validator)
    (hslot : e.ledger.slot field = d.ledger.slot field) : e.Follows outcome field last where
  current := by
    intro id r hr hf hcur
    obtain ⟨s, hs, hticket, hvalidator⟩ := hruns hr hf
    rw [IsCurrent, hf, hslot, ← hf, hticket] at hcur
    rw [hticket, hvalidator]
    exact h.current hs (hticket ▸ hf) hcur
  status := by
    rw [Ledger.status, hslot]
    exact h.status

/-- A run in another phase still has the value and the validator that it had. -/
theorem setPhase (h : d.Follows outcome field last) (id : Nat) (phase : Phase) :
    (d.setPhase id phase).Follows outcome field last := by
  refine h.mono ?_ rfl
  intro j r hr _
  obtain ⟨s, hs, rfl⟩ := d.mem_runs_setPhase.mp hr
  refine ⟨s, hs, ?_⟩
  split <;> exact ⟨rfl, rfl⟩

/-- A blank value leaves the field idle and without a current run; a run that would be
current would make it pending. -/
theorem forget (h : d.Follows outcome field last) {name : String}
    (hafter : (d.forget name).Sound) {q : CheckRequest} (hblank : q.value.isBlank = true) :
    (d.forget name).Follows outcome field (if name = field then some q else last) := by
  by_cases hn : name = field
  · subst hn
    rw [if_pos rfl]
    obtain ⟨_, hslot, _⟩ := (d.cancel name).ledger.slot_clear_self name
    constructor
    · intro id r hr hf hcur
      have hpending := hafter.slot_current hr hcur
      rw [hf] at hpending
      cases hslot.symm.trans hpending
    · refine Or.inr ?_
      have hidle : (d.forget name).ledger.status name = .idle := congrArg Slot.status hslot
      rw [hidle, restingStatus, if_pos hblank]
  · rw [if_neg hn]
    refine h.mono (fun {_ r} hr _ => ⟨r, (d.mem_runs_cancel.mp hr).1, rfl, rfl⟩) ?_
    show ((d.cancel name).ledger.clear name).slot field = _
    rw [Ledger.slot_clear_other _ hn, cancel_ledger]

/-- A value that is not blank gets a run of its own; the older runs of the field fall
behind its number. -/
theorem startRun (h : d.Follows outcome field last) (hsound : d.Sound) {name : String}
    {q : CheckRequest} (hblank : q.value.isBlank = false) :
    (d.startRun name q.validator q.value q.delay).Follows outcome field
      (if name = field then some q else last) := by
  have hd := hsound.hasScheduler
  by_cases hn : name = field
  · subst hn
    rw [if_pos rfl]
    constructor
    · intro id r hr hf hcur
      rcases (mem_runs_startRun hd).mp hr with ⟨hr, _⟩ | hr
      · have hle := hsound.generation_le hr
        rw [IsCurrent, startRun_ledger hd, hf, Ledger.slot_start, if_pos rfl] at hcur
        rw [hf, hcur] at hle
        exact absurd hle (Nat.not_succ_le_self _)
      · obtain ⟨_, rfl⟩ := Prod.mk.inj hr
        exact ⟨q, rfl, hblank, rfl, rfl⟩
    · refine Or.inl ?_
      rw [startRun_ledger hd, Ledger.status, Ledger.slot_start, if_pos rfl]
  · rw [if_neg hn]
    refine h.mono ?_ ?_
    · intro id r hr hf
      rcases (mem_runs_startRun hd).mp hr with ⟨hr, _⟩ | hr
      · exact ⟨r, hr, rfl, rfl⟩
      · obtain ⟨_, rfl⟩ := Prod.mk.inj hr
        exact absurd hf hn
    · rw [startRun_ledger hd, Ledger.slot_start, if_neg hn]

/-- The outcome of a run counts if the run is current, and then it is about the value of
the last request. -/
theorem finish (h : d.Follows outcome field last) {id : Nat} {r : Run}
    (hr : (id, r) ∈ d.runs) :
    ({ d.stop id with
        ledger := (d.ledger.resolve r.ticket (outcome r.validator r.ticket.value)).2 } :
      Dispatcher).Follows outcome field last := by
  by_cases hcounts : r.ticket.field = field ∧ d.ledger.isCurrent r.ticket = true
  · constructor
    · intro j s hs hf hcur
      have hs := (d.mem_runs_stop.mp hs).1
      refine h.current hs hf ?_
      rwa [IsCurrent, Ledger.generation_slot_resolve] at hcur
    · refine Or.inr ?_
      obtain ⟨hf, haccepts⟩ := hcounts
      have hstatus : (d.ledger.resolve r.ticket (outcome r.validator r.ticket.value)).2.status
          field = (outcome r.validator r.ticket.value).status := by
        rw [Ledger.status, Ledger.slot_resolve, if_pos ⟨hf, haccepts⟩]
      rw [Ledger.isCurrent_eq_accepts, Slot.accepts, Bool.and_eq_true,
        decide_eq_true_eq] at haccepts
      obtain ⟨q, rfl, hblank, hvalidator, hvalue⟩ := h.current hr hf haccepts.1.symm
      rw [hstatus, restingStatus, hblank, hvalidator, hvalue]
      rfl
  · refine h.mono (fun {_ s} hs _ => ⟨s, (d.mem_runs_stop.mp hs).1, rfl, rfl⟩) ?_
    show (d.ledger.resolve r.ticket _).2.slot field = _
    rw [Ledger.slot_resolve, if_neg hcounts]

/-- Every move leaves the field where its last request brings it. -/
theorem apply (h : d.Follows outcome field last) (hsound : d.Sound) {m : Move}
    (hm : m.AnswersBy outcome) :
    (m.apply d).Follows outcome field ((m.request? d.config field).or last) := by
  have hdoes := does_apply d m
  have hafter := hsound.apply m
  generalize m.apply d = e at hdoes hafter ⊢
  -- A request of the move is the last one for its field and none for any other.
  have hlast : ∀ {name q}, m.request? d.config name = some q →
      (m.request? d.config field).or last = if name = field then some q else last := by
    intro name q hq
    by_cases hn : name = field
    · rw [← hn, hq, if_pos rfl]
      rfl
    · have hother : ¬ m.Gives field :=
        fun hf => hn (Move.eq_of_gives (Move.gives_of_request? hq) hf)
      rw [Move.request?_eq_none hother, if_neg hn]
      rfl
  cases hdoes with
  | nothing hnot =>
      rw [Move.request?_eq_none fun hf => hnot field (Or.inl hf)]
      exact h
  | forgets hq hblank =>
      rw [hlast hq]
      exact h.forget hafter hblank
  | starts hq hblank =>
      rw [hlast hq]
      exact h.startRun hsound hblank
  | cancels =>
      refine h.mono (fun {_ r} hr _ => ⟨r, (d.mem_runs_cancel.mp hr).1, rfl, rfl⟩) ?_
      rw [cancel_ledger]
  | releases => exact h.mono (fun {_ r} hr _ => ⟨r, hr, rfl, rfl⟩) rfl
  | delays => exact h.setPhase ..
  | asks => exact (h.setPhase ..).mono (fun {_ r} hr _ => ⟨r, hr, rfl, rfl⟩) rfl
  | ends hr ho =>
      obtain rfl := Option.some.inj ((hm ..).symm.trans ho)
      exact h.finish hr
  | breaksOff => exact h.mono (fun {_ s} hs _ => ⟨s, (d.mem_runs_stop.mp hs).1, rfl, rfl⟩) rfl
  | passes => exact h.mono (fun {_ r} hr _ => ⟨r, hr, rfl, rfl⟩) rfl

/-- So after all moves a field is where its last request has brought it. -/
theorem play {config : DispatchConfig} {moves : List Move}
    (hmoves : ∀ m ∈ moves, m.AnswersBy outcome) (field : String) :
    ((new config).play moves).Follows outcome field (lastRequest config moves field) := by
  induction moves using List.reverseRecOn with
  | nil => exact follows_new outcome config field
  | append_singleton moves m ih =>
      obtain ⟨hearlier, hm⟩ := forall_mem_snoc.mp hmoves
      have hstep := (ih hearlier).apply ((sound_new config).play moves) hm
      rw [play_config] at hstep
      rw [play_snoc, lastRequest_snoc]
      exact hstep

end Follows

/-- A field whose runs are over is not pending, unless one was cancelled. -/
theorem status_ne_pending {config : DispatchConfig} {moves : List Move}
    (hmoves : ∀ m ∈ moves, m.Answers) {field : String} (hcancel : .cancel field ∉ moves)
    (hover : ∀ id r, (id, r) ∈ ((new config).play moves).runs → r.ticket.field ≠ field) :
    ((new config).play moves).ledger.status field ≠ .pending := by
  intro hpending
  have hserves : ¬ ((new config).play moves).Serves field := by
    intro h
    obtain ⟨t, ⟨id, r, hr, rfl⟩, hf, _⟩ := h
    exact hover id r hr hf
  obtain ⟨before, after, rfl, _⟩ := (isOrphan_play_iff config hmoves field).mp ⟨hpending, hserves⟩
  exact hcancel (List.mem_append_right _ List.mem_cons_self)

/-- When all runs of a field are over, its status is what its last value comes to. -/
theorem status_eq_restingStatus {outcome : ValidatorRef → Value → Outcome}
    {config : DispatchConfig} {moves : List Move} (hmoves : ∀ m ∈ moves, m.AnswersBy outcome)
    {field : String} (hcancel : .cancel field ∉ moves)
    (hover : ∀ id r, (id, r) ∈ ((new config).play moves).runs → r.ticket.field ≠ field) :
    ((new config).play moves).ledger.status field =
      restingStatus outcome (lastRequest config moves field) := by
  have hanswers : ∀ m ∈ moves, m.Answers := fun m hm => (hmoves m hm).answers
  exact (Follows.play hmoves field).status.resolve_left (status_ne_pending hanswers hcancel hover)

end Dispatcher

/-! ## Waiting out all runs -/

/-- The validators that are asked in this move answer some time. -/
def Move.Ends : Move → Prop
  | .progress validators _ => ∀ ref value, (validators ref value).duration.isSome
  | _ => True

namespace Dispatcher

/-- No run waits for an answer that never comes. -/
def Unstuck (d : Dispatcher) : Prop := ∀ p ∈ d.runs, p.2.phase ≠ .asking none

theorem unstuck_new (config : DispatchConfig) : (new config).Unstuck := List.forall_mem_nil _

namespace Unstuck

variable {d e : Dispatcher}

/-- Fewer runs do not get stuck more easily. -/
theorem mono (h : d.Unstuck) (hruns : ∀ p ∈ e.runs, p ∈ d.runs) : e.Unstuck :=
  fun p hp => h p (hruns p hp)

/-- A run gets stuck only by asking a validator that never answers. -/
theorem setPhase (h : d.Unstuck) {phase : Phase} (hphase : phase ≠ .asking none) (id : Nat) :
    (d.setPhase id phase).Unstuck := by
  intro p hp
  obtain ⟨s, hs, hr⟩ := d.mem_runs_setPhase.mp hp
  rw [hr]
  split
  · exact hphase
  · exact h _ hs

/-- A run gets stuck only where its validator never answers. -/
theorem apply (h : d.Unstuck) (hsound : d.Sound) {m : Move} (hm : m.Ends) :
    (m.apply d).Unstuck := by
  have hdoes := does_apply d m
  generalize m.apply d = e at hdoes ⊢
  cases hdoes with
  | nothing => exact h
  | forgets => exact h.mono fun p hp => (d.mem_runs_cancel.mp hp).1
  | starts =>
      intro p hp
      rcases (mem_runs_startRun hsound.hasScheduler).mp hp with ⟨hp, _⟩ | hp
      · exact h p hp
      · rw [hp]
        exact nofun
  | cancels => exact h.mono fun p hp => (d.mem_runs_cancel.mp hp).1
  | releases => exact h
  | delays => exact h.setPhase (by nofun) _
  | @asks validators id r =>
      obtain ⟨time, htime⟩ := Option.isSome_iff_exists.mp (hm r.validator r.ticket.value)
      rw [htime]
      exact h.setPhase (by nofun) id
  | ends => exact h.mono fun p hp => (d.mem_runs_stop.mp hp).1
  | breaksOff => exact h.mono fun p hp => (d.mem_runs_stop.mp hp).1
  | passes => exact h

/-- Where all validators answer some time, no run is stuck after all moves. -/
theorem play (h : d.Unstuck) (hsound : d.Sound) {moves : List Move}
    (hmoves : ∀ m ∈ moves, m.Ends) : (d.play moves).Unstuck := by
  induction moves generalizing d with
  | nil => exact h
  | cons m rest ih =>
      obtain ⟨hm, hrest⟩ := List.forall_mem_cons.mp hmoves
      exact ih (h.apply hsound hm) (hsound.apply m) hrest

end Unstuck

section QuietEnd

variable {validators : Validators} {d : Dispatcher} {id : Nat} {r : Run}
  {rest : List (Nat × Run)}

theorem run?_of_runs_eq_cons (h : d.runs = (id, r) :: rest) : d.run? id = some r := by
  simp [run?, h]

/-- The first run goes over into another phase and stays the first. -/
theorem runs_setPhase_of_eq_cons (h : d.runs = (id, r) :: rest) (phase : Phase) :
    ∃ more, (d.setPhase id phase).runs = (id, { r with phase }) :: more ∧
      more.length = rest.length := by
  refine ⟨rest.map fun p => if p.1 = id then (id, { p.2 with phase }) else p, ?_, by simp⟩
  simp [setPhase, h]

/-- Where the first run is stopped, there are no more runs than those after it. -/
theorem length_runs_stop_of_eq_cons (h : d.runs = (id, r) :: rest) :
    (d.stop id).runs.length ≤ rest.length := by
  have hstop : (d.stop id).runs = rest.filter fun p => p.1 ≠ id := by simp [stop, h]
  rw [hstop]
  exact List.length_filter_le ..

/-- A run that is due gets on by a phase, or it ends. -/
theorem progress_gets_on (validators : Validators) (h : d.runs = (id, r) :: rest) :
    (d.progress validators id).runs.length ≤ rest.length ∨
      ∃ s more, (d.progress validators id).runs = (id, s) :: more ∧
        more.length = rest.length ∧ s.phase.movesLeft < r.phase.movesLeft := by
  unfold progress
  rw [run?_of_runs_eq_cons h]
  dsimp only
  cases hphase : r.phase with
  | scheduled =>
      obtain ⟨more, hruns, hlength⟩ := runs_setPhase_of_eq_cons h (.delayed (d.now + r.delay))
      exact Or.inr ⟨_, more, hruns, hlength, Nat.lt_succ_self 2⟩
  | delayed time =>
      obtain ⟨more, hruns, hlength⟩ := runs_setPhase_of_eq_cons h
        (.asking ((validators r.validator r.ticket.value).duration.map (d.now + ·)))
      exact Or.inr ⟨_, more, hruns, hlength, Nat.lt_succ_self 1⟩
  | asking answer =>
      refine Or.inl ?_
      dsimp only
      split <;> exact length_runs_stop_of_eq_cons h

/-- The first run gets on once the time is there that it waits for. -/
theorem first_gets_on (validators : Validators) (h : d.runs = (id, r) :: rest)
    (hr : r.phase ≠ .asking none) :
    ∃ e, QuietlyTo validators d e ∧ (e.runs.length ≤ rest.length ∨
      ∃ s more, e.runs = (id, s) :: more ∧ more.length = rest.length ∧
        s.phase.movesLeft < r.phase.movesLeft) := by
  have hdue : r.isDue (d.passTo (r.dueTime?.getD 0)).now = true := by
    cases hdue : r.dueTime? with
    | none => exact Run.isDue_of_dueTime?_eq_none hdue hr _
    | some time => exact Run.isDue_of_dueTime? hdue (Nat.le_max_right ..)
  have hlater : (d.passTo (r.dueTime?.getD 0)).runs = (id, r) :: rest := h
  refine ⟨_, (QuietlyTo.pass d (r.dueTime?.getD 0)).trans (QuietlyTo.progress _ id), ?_⟩
  rw [progressIfDue, run?_of_runs_eq_cons hlater]
  dsimp only
  rw [if_pos hdue]
  exact progress_gets_on validators hlater

/-- Nothing gets stuck in a wait either, if all validators answer. -/
theorem QuietlyTo.unstuck {e : Dispatcher} (h : QuietlyTo validators d e)
    (hanswers : ∀ ref value, (validators ref value).duration.isSome) (hsound : d.Sound)
    (hd : d.Unstuck) : e.Unstuck := by
  obtain ⟨moves, hquiet, rfl⟩ := h
  refine hd.play hsound fun m hm => ?_
  have hm := hquiet m hm
  cases m with
  | progress v id =>
      obtain rfl : v = validators := hm
      exact hanswers
  | pass time => trivial
  | _ => exact hm.elim

/-- A wait leaves a sound dispatcher sound. -/
theorem QuietlyTo.sound {e : Dispatcher} (h : QuietlyTo validators d e) (hd : d.Sound) :
    e.Sound := by
  obtain ⟨moves, _, rfl⟩ := h
  exact hd.play moves

/-- So quiet moves bring the first run to its end. -/
theorem exists_quiet_shorter (hanswers : ∀ ref value, (validators ref value).duration.isSome)
    (hsound : d.Sound) (hd : d.Unstuck) (h : d.runs = (id, r) :: rest) :
    ∃ e, QuietlyTo validators d e ∧ e.runs.length ≤ rest.length := by
  induction hleft : r.phase.movesLeft using Nat.strongRecOn generalizing d r rest with
  | _ left ih =>
      have hr : r.phase ≠ .asking none := hd (id, r) (by simp [h])
      obtain ⟨e, he, hshorter | ⟨s, more, hruns, hlength, hlt⟩⟩ := first_gets_on validators h hr
      · exact ⟨e, he, hshorter⟩
      · obtain ⟨f, hf, hle⟩ := ih _ (hleft ▸ hlt) (he.sound hsound)
          (he.unstuck hanswers hsound hd) hruns rfl
        exact ⟨f, he.trans hf, hlength ▸ hle⟩

/-- And in the end all runs are over. -/
theorem exists_quiet_end (hanswers : ∀ ref value, (validators ref value).duration.isSome)
    (hsound : d.Sound) (hd : d.Unstuck) : ∃ e, QuietlyTo validators d e ∧ e.runs = [] := by
  induction hlength : d.runs.length using Nat.strongRecOn generalizing d with
  | _ length ih =>
      cases hruns : d.runs with
      | nil => exact ⟨d, .refl d, hruns⟩
      | cons p rest =>
          obtain ⟨e, he, hle⟩ := exists_quiet_shorter hanswers hsound hd hruns
          have hlt : e.runs.length < length := by
            rw [hruns, List.length_cons] at hlength
            omega
          obtain ⟨f, hf, hnone⟩ := ih _ hlt (he.sound hsound) (he.unstuck hanswers hsound hd) rfl
          exact ⟨f, he.trans hf, hnone⟩

end QuietEnd

/-! ## Main statement -/

/-- **The last value wins.**  Let values be given for any fields, callers begin to wait,
runs get on and time pass in any order, the validators answering by the value.  When no
run of a field is left, its status is what the last request for it comes to, whichever
run was the last to end and whatever was done for other fields.  And there is always a
way to that, as long as the validators answer some time: all runs can be waited out, and
nothing but a cancel for the field itself makes a difference. -/
theorem last_value_wins (outcome : ValidatorRef → Value → Outcome) (config : DispatchConfig)
    (moves : List Move) (hmoves : ∀ m ∈ moves, m.AnswersBy outcome) :
    (∀ field, .cancel field ∉ moves →
      (∀ id r, (id, r) ∈ ((new config).play moves).runs → r.ticket.field ≠ field) →
        ((new config).play moves).ledger.status field =
          restingStatus outcome (lastRequest config moves field)) ∧
    ((∀ m ∈ moves, m.Ends) → ∀ validators : Validators,
      (∀ ref value, (validators ref value).duration.isSome) →
      (∀ ref value, (validators ref value).outcome = some (outcome ref value)) →
        ∃ more, (∀ m ∈ more, m.IsQuiet validators) ∧
          ((new config).play (moves ++ more)).runs = [] ∧
          ∀ field, .cancel field ∉ moves →
            ((new config).play (moves ++ more)).ledger.status field =
              restingStatus outcome (lastRequest config moves field)) := by
  refine ⟨fun field hcancel hover => status_eq_restingStatus hmoves hcancel hover, ?_⟩
  intro hends validators hanswer hvalidators
  have hsound := sound_new config
  obtain ⟨e, ⟨more, hquiet, rfl⟩, hruns⟩ := exists_quiet_end hanswer (hsound.play moves)
    ((unstuck_new config).play hsound hends)
  rw [← play_append] at hruns
  refine ⟨more, hquiet, hruns, ?_⟩
  -- the moves of the wait are of runs and of time, and none of them cancels
  have hanswers : ∀ m ∈ moves ++ more, m.AnswersBy outcome := by
    intro m hm
    rcases List.mem_append.mp hm with hm | hm
    · exact hmoves m hm
    · have hm := hquiet m hm
      cases m with
      | progress v id =>
          obtain rfl : v = validators := hm
          exact hvalidators
      | pass time => trivial
      | _ => exact hm.elim
  intro field hcancel
  have hcancel : .cancel field ∉ moves ++ more := by
    intro hm
    rcases List.mem_append.mp hm with hm | hm
    · exact hcancel hm
    · exact hquiet _ hm
  rw [← lastRequest_append_quiet hquiet config moves field]
  refine status_eq_restingStatus hanswers hcancel ?_
  simp [hruns]

/-- Every name is free but one. -/
def isTaken (_ : ValidatorRef) (value : Value) : Outcome :=
  if value = .text "ada" then .invalid "Taken" else .valid

/-- The answer about the one name takes its time. -/
def slowlyTaken : Validators := fun ref value =>
  ⟨some (if value = .text "ada" then 100 else 5), some (isTaken ref value)⟩

/-- A field whose values are checked at once. -/
def checkedAtOnce (name : String) : FormField :=
  { kind := .text, name := some name, validator := some ⟨0⟩ }

/-- A caller waits for the check of a name; the next name is checked in the meantime,
and the answer about the first one comes last.  Another field is given a value and
emptied again. -/
def overtakenCheck : List Move :=
  [.validateNow (checkedAtOnce "user") (.text "ada"), .release ["user"],
    .progress slowlyTaken 0, .progress slowlyTaken 0,
    .validateNow (checkedAtOnce "user") (.text "eve"),
    .onChange (checkedAtOnce "email") (.text "e"), .onChange (checkedAtOnce "email") .null,
    .progress slowlyTaken 1, .progress slowlyTaken 1, .pass 5, .progress slowlyTaken 1,
    .pass 100, .progress slowlyTaken 0]

/-- The late answer about the first name changes nothing. -/
theorem late_answer_ignored :
    (∀ m ∈ overtakenCheck, m.AnswersBy isTaken) ∧
      ((new {}).play overtakenCheck).runs = [] ∧
      ((new {}).play overtakenCheck).ledger.status "user" = .valid ∧
      ((new {}).play overtakenCheck).ledger.status "email" = .idle := by
  have hanswers : ∀ m ∈ overtakenCheck, m.AnswersBy isTaken := by
    simp [overtakenCheck, Move.AnswersBy, slowlyTaken]
  have hruns : ((new {}).play overtakenCheck).runs = [] := by decide
  have hcancel : ∀ field, .cancel field ∉ overtakenCheck := by simp [overtakenCheck]
  have hwins := (last_value_wins isTaken {} overtakenCheck hanswers).1
  refine ⟨hanswers, hruns, ?_, ?_⟩
  · rw [hwins "user" (hcancel _) (by simp [hruns])]
    decide
  · rw [hwins "email" (hcancel _) (by simp [hruns])]
    decide

end Dispatcher

end Formwork
