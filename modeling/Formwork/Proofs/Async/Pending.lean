import Formwork.Pattern.Meaning
import Formwork.Proofs.Async.History
import Formwork.Proofs.Async.Soundness
import Formwork.Proofs.Wizard.Report

/-!
# Pending fields and their runs

A field that is pending waits for an answer, and the answer has to come from a run
under way.  A cancel stops such a run and leaves the status as it is: the field goes
on waiting, and nothing but a new value for it ends that.

* `isOrphan_apply_iff` — what one move does to a field that waits for nobody;
* `Abandoned` — the same for a sequence of moves, told by the moves alone;
* `pending_iff_served_or_abandoned` — the pending fields are those with a run, and
  those whose run was stopped by a cancel.
-/

namespace Formwork

namespace Dispatcher

variable (d : Dispatcher)

/-- A run under way carries the ticket. -/
def Carries (t : Ticket) : Prop := ∃ id r, (id, r) ∈ d.runs ∧ r.ticket = t

/-- A run under way carries the current number and value of the field. -/
def Serves (field : String) : Prop :=
  ∃ t, d.Carries t ∧ t.field = field ∧ t.generation = (d.ledger.slot field).generation ∧
    (d.ledger.slot field).value = some t.value

/-- The field has a run under way that a caller can stop. -/
def HoldsRun (field : String) : Prop :=
  ∃ id, d.handles.get? field = some id ∧ d.isAlive id = true

/-- The field waits for an answer that no run will give. -/
def IsOrphan (field : String) : Prop := d.ledger.status field = .pending ∧ ¬ d.Serves field

/-! ## What one move does -/

variable {d} {e : Dispatcher}

/-- Whether a field waits for nobody depends on its slot and on the runs with its current number.
-/
theorem isOrphan_congr {field : String} (hslot : e.ledger.slot field = d.ledger.slot field)
    (hcarries : ∀ t : Ticket, t.field = field →
      t.generation = (d.ledger.slot field).generation → (e.Carries t ↔ d.Carries t)) :
    e.IsOrphan field ↔ d.IsOrphan field := by
  have hserves : e.Serves field ↔ d.Serves field := by
    unfold Serves
    rw [hslot]
    constructor
    · intro h
      obtain ⟨t, ht, hfield, hgen, hvalue⟩ := h
      exact ⟨t, (hcarries t hfield hgen).mp ht, hfield, hgen, hvalue⟩
    · intro h
      obtain ⟨t, ht, hfield, hgen, hvalue⟩ := h
      exact ⟨t, (hcarries t hfield hgen).mpr ht, hfield, hgen, hvalue⟩
  rw [IsOrphan, IsOrphan, hserves, Ledger.status, Ledger.status, hslot]

/-- A run carries its ticket in every phase. -/
theorem carries_setPhase {id : Nat} {phase : Phase} {t : Ticket} :
    (d.setPhase id phase).Carries t ↔ d.Carries t := by
  simp only [Carries, mem_runs_setPhase]
  constructor
  · intro h
    obtain ⟨j, _, ⟨s, hs, rfl⟩, rfl⟩ := h
    refine ⟨j, s, hs, ?_⟩
    split <;> rfl
  · intro h
    obtain ⟨j, s, hs, rfl⟩ := h
    refine ⟨j, _, ⟨s, hs, rfl⟩, ?_⟩
    split <;> rfl

/-- So a run that goes on changes nothing for any field. -/
theorem isOrphan_setPhase_iff (id : Nat) (phase : Phase) (n : String) :
    (d.setPhase id phase).IsOrphan n ↔ d.IsOrphan n :=
  isOrphan_congr rfl fun _ _ _ => carries_setPhase

/-- A cancel that stops no run changes nothing for any field. -/
theorem isOrphan_cancel_of_not_holdsRun {field : String} (hrun : ¬ d.HoldsRun field)
    (n : String) : (d.cancel field).IsOrphan n ↔ d.IsOrphan n := by
  refine isOrphan_congr (by rw [cancel_ledger]) ?_
  intro t _ _
  simp only [Carries, mem_runs_cancel]
  constructor
  · intro ht
    obtain ⟨id, r, ⟨hr, _⟩, rfl⟩ := ht
    exact ⟨id, r, hr, rfl⟩
  · intro ht
    obtain ⟨id, r, hr, rfl⟩ := ht
    refine ⟨id, r, ⟨hr, ?_⟩, rfl⟩
    intro he
    exact hrun ⟨id, he.symm, d.isAlive_iff.mpr ⟨r, hr⟩⟩

namespace Sound

/-- A run with the current number of its field serves it. -/
theorem serves (h : d.Sound) {id : Nat} {r : Run} (hr : (id, r) ∈ d.runs)
    (hcur : d.IsCurrent r.ticket) : d.Serves r.ticket.field :=
  ⟨r.ticket, ⟨id, r, hr, rfl⟩, rfl, hcur, by rw [h.slot_current hr hcur]⟩

/-- A field that is served is pending. -/
theorem pending_of_serves (h : d.Sound) {field : String} (hs : d.Serves field) :
    d.ledger.status field = .pending := by
  obtain ⟨t, ⟨id, r, hr, rfl⟩, rfl, hgen, _⟩ := hs
  rw [Ledger.status, h.slot_current hr hgen]

/-- The handle of a field does not lead to runs of other fields. -/
theorem ne_handle (h : d.Sound) {field : String} {id : Nat} {r : Run} (hr : (id, r) ∈ d.runs)
    (hf : r.ticket.field ≠ field) : some id ≠ d.handles.get? field := by
  intro he
  exact hf (h.handle_current he.symm hr).1

/-- To cancel one field leaves the runs of all others under way. -/
theorem carries_cancel (h : d.Sound) {field : String} {t : Ticket} (ht : t.field ≠ field) :
    (d.cancel field).Carries t ↔ d.Carries t := by
  simp only [Carries, mem_runs_cancel]
  constructor
  · intro hcarries
    obtain ⟨id, r, ⟨hr, _⟩, rfl⟩ := hcarries
    exact ⟨id, r, hr, rfl⟩
  · intro hcarries
    obtain ⟨id, r, hr, rfl⟩ := hcarries
    exact ⟨id, r, ⟨hr, h.ne_handle hr ht⟩, rfl⟩

/-- A field whose run is cancelled goes on waiting: that run was its only current one. -/
theorem isOrphan_cancel_of_holdsRun (h : d.Sound) {field : String} (hrun : d.HoldsRun field) :
    (d.cancel field).IsOrphan field := by
  obtain ⟨id, hid, halive⟩ := hrun
  obtain ⟨r, hr⟩ := d.isAlive_iff.mp halive
  obtain ⟨hfield, hcur⟩ := h.handle_current hid hr
  constructor
  · rw [cancel_ledger, ← hfield]
    exact h.pending_of_serves (h.serves hr hcur)
  · intro hserves
    obtain ⟨t, ⟨j, s, hs, rfl⟩, hf, hgen, _⟩ := hserves
    rw [cancel_ledger, ← hf] at hgen
    obtain ⟨hs, hne⟩ := d.mem_runs_cancel.mp hs
    have hj := h.current_unique hs hr (hf.trans hfield.symm) hgen hcur
    exact hne (by rw [hj, hid])

/-- A cancel makes an orphan of its field if it stops a run, and changes no other. -/
theorem isOrphan_cancel_iff (h : d.Sound) (field n : String) :
    (d.cancel field).IsOrphan n ↔ (field = n ∧ d.HoldsRun n) ∨ d.IsOrphan n := by
  by_cases hn : field = n
  · subst hn
    by_cases hrun : d.HoldsRun field
    · exact iff_of_true (h.isOrphan_cancel_of_holdsRun hrun) (Or.inl ⟨rfl, hrun⟩)
    · simp [isOrphan_cancel_of_not_holdsRun hrun, hrun]
  · have hcongr : (d.cancel field).IsOrphan n ↔ d.IsOrphan n := by
      refine isOrphan_congr (by rw [cancel_ledger]) ?_
      intro t ht _
      exact h.carries_cancel (by rw [ht]; exact Ne.symm hn)
    simp [hcongr, hn]

/-- A field that is cleared, its run being cancelled, waits for nothing. -/
theorem isOrphan_forget_iff (h : d.Sound) (field n : String) :
    ({ d.cancel field with ledger := (d.cancel field).ledger.clear field } :
      Dispatcher).IsOrphan n ↔ d.IsOrphan n ∧ field ≠ n := by
  by_cases hn : field = n
  · subst hn
    refine iff_of_false ?_ (by simp)
    intro horphan
    obtain ⟨g, hslot, _⟩ := (d.cancel field).ledger.slot_clear_self field
    have hpending : ((d.cancel field).ledger.clear field).status field = .pending := horphan.1
    rw [Ledger.status, hslot] at hpending
    cases hpending
  · have hcongr : ({ d.cancel field with ledger := (d.cancel field).ledger.clear field } :
        Dispatcher).IsOrphan n ↔ d.IsOrphan n := by
      refine isOrphan_congr ?_ ?_
      · show Ledger.slot (Ledger.clear _ _) n = _
        rw [Ledger.slot_clear_other _ hn, cancel_ledger]
      · intro t ht _
        exact h.carries_cancel (by rw [ht]; exact Ne.symm hn)
    exact hcongr.trans (and_iff_left hn).symm

/-- A field for which a run is started is served by it. -/
theorem isOrphan_startRun_iff (h : d.Sound) (field : String) (validator : ValidatorRef)
    (value : Value) (delay : Nat) (n : String) :
    (d.startRun field validator value delay).IsOrphan n ↔ d.IsOrphan n ∧ field ≠ n := by
  have hd := h.hasScheduler
  by_cases hn : field = n
  · subst hn
    refine iff_of_false ?_ (by simp)
    intro horphan
    -- the new run serves its field
    have hsound := h.startRun field validator value delay
    refine horphan.2 (hsound.serves ((mem_runs_startRun hd).mpr (Or.inr rfl)) ?_)
    simp [IsCurrent, startRun_ledger hd, Ledger.start_fst, Ledger.slot_start]
  · -- nothing changes for any other field
    have hcongr : (d.startRun field validator value delay).IsOrphan n ↔ d.IsOrphan n := by
      refine isOrphan_congr ?_ ?_
      · rw [startRun_ledger hd, Ledger.slot_start, if_neg hn]
      · intro t ht _
        have hne : t.field ≠ field := by
          rw [ht]
          exact Ne.symm hn
        simp only [Carries, mem_runs_startRun hd]
        constructor
        · intro hcarries
          obtain ⟨id, r, hr, rfl⟩ := hcarries
          rcases hr with ⟨hr, _⟩ | hr
          · exact ⟨id, r, hr, rfl⟩
          · obtain ⟨rfl, rfl⟩ := Prod.mk.inj hr
            exact absurd rfl hne
        · intro hcarries
          obtain ⟨id, r, hr, rfl⟩ := hcarries
          exact ⟨id, r, Or.inl ⟨hr, h.ne_handle hr hne⟩, rfl⟩
    exact hcongr.trans (and_iff_left hn).symm

/-- A new value, blank or not, settles what its field waits for. -/
theorem isOrphan_schedule_iff (h : d.Sound) (f : FormField) (value : Value) (delay : Nat)
    (n : String) : (d.schedule f value delay).IsOrphan n ↔
      d.IsOrphan n ∧ ¬ (f.validator.isSome ∧ f.nameText = n) := by
  unfold Dispatcher.schedule
  cases f.validator with
  | none => simp
  | some validator =>
      have hgives : ¬ ((some validator).isSome ∧ f.nameText = n) ↔ f.nameText ≠ n := by simp
      rw [hgives]
      dsimp only
      split
      · exact h.isOrphan_forget_iff f.nameText n
      · exact h.isOrphan_startRun_iff f.nameText validator value delay n

/-- A run that ends with an outcome makes no orphan: if it was current, its field is
no longer pending, and if not, its field did not wait for it. -/
theorem isOrphan_finish_iff (h : d.Sound) {id : Nat} {r : Run} (hr : (id, r) ∈ d.runs)
    (o : Outcome) (n : String) :
    ({ d.stop id with ledger := (d.ledger.resolve r.ticket o).2 } : Dispatcher).IsOrphan n ↔
      d.IsOrphan n := by
  by_cases hcur : r.ticket.field = n ∧ d.IsCurrent r.ticket
  · obtain ⟨rfl, hcur⟩ := hcur
    -- the run was the current one, so its outcome is taken
    have hslot := h.slot_current hr hcur
    refine iff_of_false ?_ (fun ho => ho.2 (h.serves hr hcur))
    intro horphan
    obtain ⟨hpending, _⟩ := horphan
    change (d.ledger.resolve r.ticket o).2.status r.ticket.field = .pending at hpending
    rw [Ledger.status, Ledger.slot_resolve, if_pos] at hpending
    · cases o <;> cases hpending
    · refine ⟨rfl, ?_⟩
      simp [Ledger.isCurrent_eq_accepts, hslot, Slot.accepts, Slot.isAbout]
  · -- its outcome is not for this field, or comes too late
    refine isOrphan_congr ?_ ?_
    · show (d.ledger.resolve r.ticket o).2.slot n = _
      rw [Ledger.slot_resolve, if_neg]
      intro hmatch
      obtain ⟨hfield, hacc⟩ := hmatch
      rw [Ledger.isCurrent_eq_accepts, Slot.accepts, Bool.and_eq_true, decide_eq_true_eq] at hacc
      exact hcur ⟨hfield, hacc.1.symm⟩
    · intro t ht hgen
      constructor
      · intro hcarries
        obtain ⟨j, s, hs, rfl⟩ := hcarries
        exact ⟨j, s, (d.mem_runs_stop.mp hs).1, rfl⟩
      · intro hcarries
        obtain ⟨j, s, hs, rfl⟩ := hcarries
        refine ⟨j, s, d.mem_runs_stop.mpr ⟨hs, ?_⟩, rfl⟩
        intro he
        subst he
        have hticket := h.run_unique hs hr
        rw [hticket] at ht hgen
        exact hcur ⟨ht, by rw [IsCurrent, ht, hgen]⟩

/-- No run makes or mends an orphan by getting on. -/
theorem isOrphan_progress_iff (h : d.Sound) {validators : Validators}
    (hv : ∀ ref value, (validators ref value).outcome.isSome) (id : Nat) (n : String) :
    (d.progressIfDue validators id).IsOrphan n ↔ d.IsOrphan n := by
  unfold Dispatcher.progressIfDue
  cases hrun : d.run? id with
  | none => exact Iff.rfl
  | some r =>
      dsimp only
      split
      · rw [Dispatcher.progress, hrun]
        dsimp only
        split
        · exact isOrphan_setPhase_iff ..
        · exact isOrphan_setPhase_iff (d := d) id
            (.asking ((validators r.validator r.ticket.value).duration.map (d.now + ·))) n
        · obtain ⟨o, ho⟩ := Option.isSome_iff_exists.mp (hv r.validator r.ticket.value)
          rw [ho]
          exact h.isOrphan_finish_iff (d.mem_runs_of_run? hrun) o n
      · exact Iff.rfl

/-- What one move does to a field that waits for an answer no run will give: only a
cancel that stops a run brings it into that state, and only a new value takes it out. -/
theorem isOrphan_apply_iff (h : d.Sound) {m : Move} (hm : m.Answers) (n : String) :
    (m.apply d).IsOrphan n ↔
      (m = .cancel n ∧ d.HoldsRun n) ∨ (d.IsOrphan n ∧ ¬ m.Gives n) := by
  cases m with
  | onChange f value =>
      simpa [Move.Gives, Move.apply, onChange] using h.isOrphan_schedule_iff f value _ n
  | validateNow f value =>
      simpa [Move.Gives, Move.apply, validateNow] using h.isOrphan_schedule_iff f value 0 n
  | cancel field => simpa [Move.Gives, Move.apply] using h.isOrphan_cancel_iff field n
  | release fields => simp [Move.Gives, Move.apply, IsOrphan, Serves, Carries, Dispatcher.release]
  | progress validators id => simpa [Move.Gives, Move.apply] using h.isOrphan_progress_iff hm id n
  | pass time => simp [Move.Gives, Move.apply, IsOrphan, Serves, Carries, Dispatcher.passTo]

end Sound

/-! ## What a sequence of moves does -/

/-- At some time a cancel stopped a run of the field, and no value was given for the
field since. -/
def Abandoned (config : DispatchConfig) (moves : List Move) (field : String) : Prop :=
  ∃ before after, moves = before ++ .cancel field :: after ∧
    ((new config).play before).HoldsRun field ∧ ∀ m ∈ after, ¬ m.Gives field

/-- A field is abandoned after one more move if that move cancels its run, or if it was abandoned
before and gets no new value. -/
theorem abandoned_snoc {config : DispatchConfig} {moves : List Move} {m : Move}
    {field : String} : Abandoned config (moves ++ [m]) field ↔
      (m = .cancel field ∧ ((new config).play moves).HoldsRun field) ∨
        (Abandoned config moves field ∧ ¬ m.Gives field) := by
  constructor
  · intro h
    obtain ⟨before, after, hmoves, hrun, hafter⟩ := h
    rcases append_cons_eq_snoc_iff.mp hmoves.symm with ⟨rfl, rfl, rfl⟩ | ⟨earlier, rfl, rfl⟩
    · exact Or.inl ⟨rfl, hrun⟩
    · obtain ⟨hearlier, hm⟩ := forall_mem_snoc.mp hafter
      exact Or.inr ⟨⟨before, earlier, rfl, hrun, hearlier⟩, hm⟩
  · intro h
    rcases h with ⟨rfl, hrun⟩ | ⟨⟨before, earlier, rfl, hrun, hearlier⟩, hm⟩
    · exact ⟨moves, [], rfl, hrun, by simp⟩
    · exact ⟨before, earlier ++ [m], by simp, hrun, forall_mem_snoc.mpr ⟨hearlier, hm⟩⟩

/-- A field waits for nobody exactly if it was abandoned. -/
theorem isOrphan_play_iff (config : DispatchConfig) {moves : List Move}
    (hmoves : ∀ m ∈ moves, m.Answers) (field : String) :
    ((new config).play moves).IsOrphan field ↔ Abandoned config moves field := by
  induction moves using List.reverseRecOn with
  | nil =>
      refine iff_of_false ?_ ?_
      · intro h
        obtain ⟨hpending, _⟩ := h
        cases hpending
      · intro h
        obtain ⟨before, after, hnil, _⟩ := h
        simp at hnil
  | append_singleton moves m ih =>
      have hsound := (sound_new config).play moves
      have ih := ih fun x hx => hmoves x (List.mem_append_left _ hx)
      rw [play_snoc, hsound.isOrphan_apply_iff (hmoves m (by simp)), ih, abandoned_snoc]

/-! ## Main statement -/

/-- **Who waits for whom.**  After every sequence of moves, in which no validator breaks
off without an outcome, a field is pending exactly if a run under way carries its current
number and value or if it was abandoned, and never both.  So when no run is left the
pending fields are the abandoned ones, and a wizard that is kept waiting for a field is
kept so by a run of the field or by a cancel that stopped one. -/
theorem pending_iff_served_or_abandoned [PatternEngine] (config : DispatchConfig)
    (moves : List Move) (hmoves : ∀ m ∈ moves, m.Answers) (field : String) :
    (((new config).play moves).ledger.status field = .pending ↔
      ((new config).play moves).Serves field ∨ Abandoned config moves field) ∧
    ¬ (((new config).play moves).Serves field ∧ Abandoned config moves field) ∧
    (((new config).play moves).runs = [] →
      (((new config).play moves).ledger.status field = .pending ↔
        Abandoned config moves field)) ∧
    ∀ (w : Wizard) values report,
      (w.next values ((new config).play moves).ledger).1 = .blocked report →
        field ∈ report.pending →
          ((new config).play moves).Serves field ∨ Abandoned config moves field := by
  have hsound := (sound_new config).play moves
  have horphan := isOrphan_play_iff config hmoves field
  have hpending : ((new config).play moves).ledger.status field = .pending ↔
      ((new config).play moves).Serves field ∨ Abandoned config moves field := by
    constructor
    · intro hstatus
      by_cases hserves : ((new config).play moves).Serves field
      · exact Or.inl hserves
      · exact Or.inr (horphan.mp ⟨hstatus, hserves⟩)
    · intro h
      rcases h with hserves | hab
      · exact hsound.pending_of_serves hserves
      · exact (horphan.mpr hab).1
  refine ⟨hpending, ?_, ?_, ?_⟩
  · intro h
    obtain ⟨hserves, hab⟩ := h
    exact (horphan.mpr hab).2 hserves
  · intro hruns
    have hnone : ¬ ((new config).play moves).Serves field := by
      intro h
      obtain ⟨t, ⟨id, r, hr, _⟩, _⟩ := h
      simp [hruns] at hr
    rw [hpending]
    exact or_iff_right hnone
  · intro w values report hblocked hfield
    exact hpending.mp (Wizard.status_of_next_blocked hblocked hfield)

/-- A field is given a value, and the check of it is cancelled while it goes on. -/
def cancelledCheck : List Move :=
  [.onChange { kind := .text, name := some "user", validator := some ⟨0⟩ } (.text "ada"),
    .progress (fun _ _ => ⟨some 5, some .valid⟩) 0, .cancel "user"]

theorem cancelledCheck_answers : ∀ m ∈ cancelledCheck, m.Answers := by
  simp [cancelledCheck, Move.Answers]

/-- Without the cancel a run serves the field; with it the field is abandoned. -/
theorem served_until_cancelled :
    ((new {}).play (cancelledCheck.take 2)).Serves "user" ∧
      Abandoned {} cancelledCheck "user" := by
  constructor
  · have hanswers : ∀ m ∈ cancelledCheck.take 2, m.Answers := by
      intro m hm
      exact cancelledCheck_answers m (List.mem_of_mem_take hm)
    have h := pending_iff_served_or_abandoned {} (cancelledCheck.take 2) hanswers "user"
    refine (h.1.mp (by decide)).resolve_right ?_
    intro h
    obtain ⟨before, after, hmoves, _⟩ := h
    have hmem : Move.cancel "user" ∈ cancelledCheck.take 2 := by simp [hmoves]
    simp [cancelledCheck] at hmem
  · have h := pending_iff_served_or_abandoned {} cancelledCheck cancelledCheck_answers "user"
    exact (h.2.2.1 (by decide)).mp (by decide)

/-- No run is left after the cancel, but the field stays pending. -/
theorem pending_without_run :
    ((new {}).play cancelledCheck).ledger.status "user" = .pending ∧
      ((new {}).play cancelledCheck).runs = [] ∧
      ¬ ((new {}).play cancelledCheck).Serves "user" := by
  have hruns : ((new {}).play cancelledCheck).runs = [] := by decide
  refine ⟨by decide, hruns, ?_⟩
  intro h
  obtain ⟨t, ⟨id, r, hr, _⟩, _⟩ := h
  simp [hruns] at hr

end Dispatcher

end Formwork
