import Formwork.Pattern.Meaning
import Formwork.Proofs.Async.Duration
import Formwork.Proofs.Async.Pending
import Formwork.Proofs.Wizard.Gate

/-!
# Who keeps a wizard waiting

Going on after outside checks starts checks and waits for runs.  Both are about the fields of
the step that are shown and have a validator, and about no others: a hidden field is left
alone, and a run of it that is under way, however long it takes, is not waited for.  A disabled
field is treated here like any other, although the gate, which comes after the wait, does not
look at it.

* `runsFrom_beforeWait_iff` — the runs that are started;
* `waitsFor_iff` — the runs that are waited for;
* `shown_fields_keep_waiting` — these two, and the time at which the wait is over.
-/

namespace Formwork

/-- The field has a value that is not blank and of which nothing is known. -/
def FormField.IsUnknown (f : FormField) (values : Snapshot) (known : Ledger) : Prop :=
  ∃ v, values.resolve? f.nameText = some v ∧ v.isBlank = false ∧
    known.statusFor f.nameText v = .idle

namespace Dispatcher

/-- A run of the field with at least this number is under way. -/
def RunsFrom (d : Dispatcher) (number : Nat) (field : String) : Prop :=
  ∃ id r, (id, r) ∈ d.runs ∧ number ≤ id ∧ r.ticket.field = field

variable {d : Dispatcher} {known : Ledger} {values : Snapshot} {f : FormField} {name : String}

/-! ## The checks that are started -/

/-- Of a value of which something is known no check is started. -/
theorem checkIfUnknown_of_known (h : ¬ f.IsUnknown values known) :
    d.checkIfUnknown known values f = d := by
  unfold checkIfUnknown
  split
  · rename_i v hv
    refine if_neg fun hcheck => h ?_
    simp only [Bool.and_eq_true, Bool.not_eq_true', decide_eq_true_eq] at hcheck
    exact ⟨v, hv, hcheck⟩
  · rfl

/-- What every start of a run preserves holds when the checks are started. -/
theorem foldl_checkIfUnknown_induction {motive : Dispatcher → Prop} {fields : List FormField}
    (hstart : ∀ e field validator value, motive e → motive (e.startRun field validator value 0))
    (h : motive d) : motive (fields.foldl (checkIfUnknown known values) d) := by
  induction fields generalizing d with
  | nil => exact h
  | cons f rest ih =>
      refine ih ?_
      rcases d.checkIfUnknown_cases known values f with he | ⟨validator, v, _, _, he⟩
      · rw [he]
        exact h
      · rw [he]
        exact hstart _ _ _ _ h

/-- What is so of a field exactly if it was so before or a run of the field was started, is so
after the checks are started exactly if it was so before or the value of the field was
unknown. -/
theorem foldl_checkIfUnknown_iff (invariant property : Dispatcher → Prop)
    {fields : List FormField} (hvalidators : ∀ f ∈ fields, f.validator.isSome)
    (hstart : ∀ e field validator value, invariant e →
      invariant (e.startRun field validator value 0) ∧
        (property (e.startRun field validator value 0) ↔ field = name ∨ property e))
    (h : invariant d) : property (fields.foldl (checkIfUnknown known values) d) ↔
      (∃ f ∈ fields, f.nameText = name ∧ f.IsUnknown values known) ∨ property d := by
  induction fields generalizing d with
  | nil => simp
  | cons f rest ih =>
      obtain ⟨hf, hrest⟩ := List.forall_mem_cons.mp hvalidators
      rw [List.foldl_cons]
      by_cases hunknown : f.IsUnknown values known
      · obtain ⟨validator, hvalidator⟩ := Option.isSome_iff_exists.mp hf
        obtain ⟨v, hv, hblank, hidle⟩ := hunknown
        have hthis : f.IsUnknown values known := ⟨v, hv, hblank, hidle⟩
        rw [d.checkIfUnknown_of_unknown hvalidator hv hblank hidle]
        obtain ⟨hkept, hproperty⟩ := hstart d f.nameText validator v h
        rw [ih hrest hkept, hproperty]
        simp [hthis, or_assoc, or_left_comm]
      · rw [checkIfUnknown_of_known hunknown, ih hrest h]
        simp [hunknown]

/-- A run with a new number is of the field that it was started for, or was there before. -/
theorem Sound.runsFrom_startRun (h : d.Sound) {number : Nat} (hnumber : number ≤ d.nextRun)
    (field : String) (validator : ValidatorRef) (value : Value) (delay : Nat) :
    (d.startRun field validator value delay).RunsFrom number name ↔
      field = name ∨ d.RunsFrom number name := by
  simp only [RunsFrom, mem_runs_startRun h.hasScheduler]
  constructor
  · intro hruns
    obtain ⟨id, r, ⟨hr, _⟩ | hnew, hid, hname⟩ := hruns
    · exact .inr ⟨id, r, hr, hid, hname⟩
    · obtain ⟨_, rfl⟩ := Prod.mk.inj hnew
      exact .inl hname
  · intro hruns
    by_cases hfield : field = name
    · exact ⟨_, _, .inr rfl, hnumber, hfield⟩
    · obtain ⟨id, r, hr, hid, hname⟩ := hruns.resolve_left hfield
      have hother : r.ticket.field ≠ field := fun he => hfield (he.symm.trans hname)
      exact ⟨id, r, .inl ⟨hr, h.ne_handle hr hother⟩, hid, hname⟩

/-- A field for which a run is started holds it, and all others hold what they held. -/
theorem Sound.holdsRun_startRun (h : d.Sound) (field : String) (validator : ValidatorRef)
    (value : Value) (delay : Nat) :
    (d.startRun field validator value delay).HoldsRun name ↔ field = name ∨ d.HoldsRun name := by
  have hhandle : (d.startRun field validator value delay).handles.get? name =
      if field = name then some d.nextRun else d.handles.get? name := by
    rw [startRun_handles h.hasScheduler, Entries.get?_put]
  simp only [HoldsRun, hhandle, isAlive_iff, mem_runs_startRun h.hasScheduler]
  by_cases hfield : field = name
  · simp [hfield]
  · rw [if_neg hfield]
    simp only [hfield, false_or]
    refine exists_congr fun id => and_congr_right fun hid => exists_congr fun r => ?_
    constructor
    · intro hr
      rcases hr with ⟨hr, _⟩ | hnew
      · exact hr
      · have hlt := h.handle_lt hid
        have heq := (Prod.mk.inj hnew).1
        omega
    · intro hr
      have hown := (h.handle_current hid hr).1
      exact .inl ⟨hr, h.ne_handle hr fun he => hfield (he.symm.trans hown)⟩

theorem Sound.foldl_checkIfUnknown (h : d.Sound) (fields : List FormField) :
    (fields.foldl (checkIfUnknown known values) d).Sound :=
  foldl_checkIfUnknown_induction (fun _ _ _ _ he => he.startRun ..) h

/-- Checks are started exactly for fields whose values nothing is known of. -/
theorem Sound.runsFrom_foldl_checkIfUnknown (h : d.Sound) {fields : List FormField}
    (hvalidators : ∀ f ∈ fields, f.validator.isSome) :
    (fields.foldl (checkIfUnknown known values) d).RunsFrom d.nextRun name ↔
      ∃ f ∈ fields, f.nameText = name ∧ f.IsUnknown values known := by
  have hnone : ¬ d.RunsFrom d.nextRun name := by
    intro hruns
    obtain ⟨id, r, hr, hid, _⟩ := hruns
    exact absurd (h.run_lt hr) (Nat.not_lt.mpr hid)
  refine (foldl_checkIfUnknown_iff (fun e => e.Sound ∧ d.nextRun ≤ e.nextRun)
    (fun e => e.RunsFrom d.nextRun name) hvalidators ?_ ⟨h, Nat.le_refl _⟩).trans
      (or_iff_left hnone)
  intro e field validator value he
  refine ⟨⟨he.1.startRun .., ?_⟩, he.1.runsFrom_startRun he.2 ..⟩
  rw [startRun_nextRun he.1.hasScheduler]
  exact Nat.le_succ_of_le he.2

/-- After that a field holds a run if one was started for it or if it held one before. -/
theorem Sound.holdsRun_foldl_checkIfUnknown (h : d.Sound) {fields : List FormField}
    (hvalidators : ∀ f ∈ fields, f.validator.isSome) :
    (fields.foldl (checkIfUnknown known values) d).HoldsRun name ↔
      (∃ f ∈ fields, f.nameText = name ∧ f.IsUnknown values known) ∨ d.HoldsRun name :=
  foldl_checkIfUnknown_iff Sound (fun e => e.HoldsRun name) hvalidators
    (fun _ _ _ _ he => ⟨he.startRun .., he.holdsRun_startRun ..⟩) h

/-- Of the runs that are released, one is of this field exactly if the field is among those that
are named and held it. -/
theorem Sound.exists_released_iff (h : d.Sound) {names : List String} :
    (∃ id ∈ (d.release names).1, ∃ r, (id, r) ∈ d.runs ∧ r.ticket.field = name) ↔
      name ∈ names ∧ d.HoldsRun name := by
  have hmem (id : Nat) : id ∈ (d.release names).1 ↔ ∃ held ∈ names, d.handles.get? held = some id :=
    List.mem_filterMap
  simp only [hmem, HoldsRun, isAlive_iff]
  constructor
  · intro hreleased
    obtain ⟨id, ⟨held, hheld, hid⟩, r, hr, hname⟩ := hreleased
    obtain rfl : held = name := (h.handle_current hid hr).1.symm.trans hname
    exact ⟨hheld, id, hid, r, hr⟩
  · intro hholds
    obtain ⟨hheld, id, hid, r, hr⟩ := hholds
    exact ⟨id, ⟨name, hheld, hid⟩, r, hr, (h.handle_current hid hr).1⟩

end Dispatcher

/-! ## The runs that are waited for -/

namespace Wizard

variable [PatternEngine] (w : Wizard) (values : Snapshot) (d : Dispatcher)

/-- The numbers of the runs that are waited for before the wizard goes on. -/
def awaitedRuns : List Nat :=
  (((w.awaitedFields values).foldl (Dispatcher.checkIfUnknown d.ledger values) d).release
    ((w.awaitedFields values).map FormField.nameText)).1

/-- A run of the field is under way and is waited for. -/
def WaitsFor (name : String) : Prop :=
  ∃ id ∈ w.awaitedRuns values d, ∃ r, (id, r) ∈ (w.beforeWait values d).runs ∧
    r.ticket.field = name

theorem nextAwaiting_dispatcher (validators : Validators) :
    (w.nextAwaiting validators values d).2.2 =
      (w.beforeWait values d).waitFor validators (w.awaitedRuns values d) := rfl

variable {w values d} {name : String}

/-- The fields that are awaited are those of the step that have a validator and are shown. -/
theorem exists_mem_awaitedFields_iff {p : FormField → Prop} :
    (∃ f ∈ w.awaitedFields values, f.nameText = name ∧ p f) ↔
      ∃ f ∈ w.currentFields, f.nameText = name ∧ f.validator.isSome ∧
        f.isShown values = true ∧ p f := by
  refine exists_congr fun f => ?_
  rw [mem_awaitedFields]
  tauto

/-- Checks are started exactly for the shown fields of the step that have a validator and a value
of which nothing is known. -/
theorem runsFrom_beforeWait_iff (h : d.Sound) :
    (w.beforeWait values d).RunsFrom d.nextRun name ↔
      ∃ f ∈ w.currentFields, f.nameText = name ∧ f.validator.isSome ∧
        f.isShown values = true ∧ f.IsUnknown values d.ledger := by
  rw [← exists_mem_awaitedFields_iff]
  exact h.runsFrom_foldl_checkIfUnknown fun _ hf => (mem_awaitedFields.mp hf).2.1

/-- Runs are waited for exactly of the shown fields of the step that have a validator and got a
check or had one under way. -/
theorem waitsFor_iff (h : d.Sound) : w.WaitsFor values d name ↔
    ∃ f ∈ w.currentFields, f.nameText = name ∧ f.validator.isSome ∧
      f.isShown values = true ∧ (f.IsUnknown values d.ledger ∨ d.HoldsRun name) := by
  have hvalidators : ∀ f ∈ w.awaitedFields values, f.validator.isSome :=
    fun f hf => (mem_awaitedFields.mp hf).2.1
  rw [← exists_mem_awaitedFields_iff]
  refine (h.foldl_checkIfUnknown _).exists_released_iff.trans ?_
  rw [h.holdsRun_foldl_checkIfUnknown hvalidators, List.mem_map]
  constructor
  · intro hholds
    obtain ⟨⟨f, hf, hname⟩, ⟨g, hg, hunknown⟩ | hheld⟩ := hholds
    · exact ⟨g, hg, hunknown.1, .inl hunknown.2⟩
    · exact ⟨f, hf, hname, .inr hheld⟩
  · intro hawaited
    obtain ⟨f, hf, hname, hunknown | hheld⟩ := hawaited
    · exact ⟨⟨f, hf, hname⟩, .inl ⟨f, hf, hname, hunknown⟩⟩
    · exact ⟨⟨f, hf, hname⟩, .inr hheld⟩

/-- No two runs have one number when the wait begins. -/
theorem numbered_beforeWait (h : d.Sound) (hnumbered : d.Numbered) :
    (w.beforeWait values d).Numbered :=
  (Dispatcher.foldl_checkIfUnknown_induction (motive := fun e => e.Sound ∧ e.Numbered)
    (fun _ _ _ _ he => ⟨he.1.startRun .., he.2.startRun he.1 ..⟩) ⟨h, hnumbered⟩).2

end Wizard

/-- **Shown fields alone keep a wizard waiting.**  Whatever a dispatcher has been through, when a
wizard is to go on, a check is started exactly for the fields of the step that are shown, have
a validator and have a value of which nothing is known, and is waited for exactly where a field
of the step that is shown and has a validator got such a check or had one under way.  The wait
is over at the time at which the last of these is, whatever other runs are under way; if one of
these never is, then neither is the wait.  So a hidden field neither has a check started nor
keeps the wizard waiting: if the checks of the other fields end some time, so does the wait, also
where the validator of the hidden field never answers.  A disabled one does keep it waiting: it
makes no difference here that a field is disabled. -/
theorem shown_fields_keep_waiting [PatternEngine] (w : Wizard) (values : Snapshot)
    (config : DispatchConfig) (moves : List Move) :
    let d := (Dispatcher.new config).play moves
    let last := fun validators =>
      (w.beforeWait values d).lastFinish validators (w.awaitedRuns values d)
    (∀ name, (w.beforeWait values d).RunsFrom d.nextRun name ↔
      ∃ f ∈ w.currentFields, f.nameText = name ∧ f.validator.isSome ∧ f.isShown values = true ∧
        f.IsUnknown values d.ledger) ∧
    (∀ name, w.WaitsFor values d name ↔
      ∃ f ∈ w.currentFields, f.nameText = name ∧ f.validator.isSome ∧ f.isShown values = true ∧
        (f.IsUnknown values d.ledger ∨ d.HoldsRun name)) ∧
    (∀ name, (∀ f ∈ w.currentFields, f.nameText = name → f.isShown values = false) →
      ¬ (w.beforeWait values d).RunsFrom d.nextRun name ∧ ¬ w.WaitsFor values d name ∧
      ∀ validators, (∀ id r, (id, r) ∈ (w.beforeWait values d).runs → r.ticket.field ≠ name →
        r.finish validators (w.beforeWait values d).now ≠ ⊤) → last validators ≠ ⊤) ∧
    ∀ validators,
      (∀ time : Nat, last validators = time →
        (w.nextAwaiting validators values d).2.2.now = time ∧
        ∀ id ∈ w.awaitedRuns values d,
          (w.nextAwaiting validators values d).2.2.isAlive id = false) ∧
      (last validators = ⊤ → ∃ id ∈ w.awaitedRuns values d,
        (w.nextAwaiting validators values d).2.2.isAlive id = true) := by
  intro d last
  have hsound : d.Sound := (Dispatcher.sound_new config).play moves
  have hnumbered : d.Numbered :=
    (Dispatcher.numbered_new config).play (Dispatcher.sound_new config) moves
  refine ⟨fun _ => Wizard.runsFrom_beforeWait_iff hsound, fun _ => Wizard.waitsFor_iff hsound, ?_,
    fun validators => ?_⟩
  · intro name hhidden
    have hnone (p : FormField → Prop) : ¬ ∃ f ∈ w.currentFields, f.nameText = name ∧
        f.validator.isSome ∧ f.isShown values = true ∧ p f := by
      rintro ⟨f, hf, hname, _, hshown, _⟩
      exact absurd hshown (by simp [hhidden f hf hname])
    have hnot : ¬ w.WaitsFor values d name := by
      rw [Wizard.waitsFor_iff hsound]
      exact hnone _
    refine ⟨?_, hnot, fun validators hothers hnever => ?_⟩
    · rw [Wizard.runsFrom_beforeWait_iff hsound]
      exact hnone _
    · -- a run that is waited for and never ends is of another field, and those end
      obtain ⟨p, hp, hid, hfinish⟩ := Dispatcher.lastFinish_eq_top_iff.mp hnever
      exact hothers p.1 p.2 hp (fun hname => hnot ⟨p.1, hid, p.2, hp, hname⟩) hfinish
  · have hbefore : (w.beforeWait values d).Numbered := Wizard.numbered_beforeWait hsound hnumbered
    have hlast : last validators = _ := hbefore.lastFinish_eq validators (w.awaitedRuns values d)
    rw [← Wizard.nextAwaiting_dispatcher] at hlast
    constructor
    · intro time htime
      rw [htime] at hlast
      split at hlast
      · cases hlast
      · rename_i hover
        refine ⟨(WithTop.coe_injective hlast).symm, fun id hid => ?_⟩
        simpa using fun halive => hover (List.any_eq_true.mpr ⟨id, hid, halive⟩)
    · intro htop
      rw [htop] at hlast
      split at hlast
      · rename_i halive
        exact List.any_eq_true.mp halive
      · cases hlast

/-- The field of the form is not shown as long as no account is given. -/
def hiddenUser : FormField :=
  { userField with showWhen := some (.rule ⟨"account", .present, none⟩) }

def hiddenUserWizard : Wizard := { schema := { fields := [("user", hiddenUser)], rules := [] } }

/-- A check of the field has begun. -/
def checkedFree : Dispatcher := (Dispatcher.new {}).play [.onChange hiddenUser (.text "free")]

/-- No validator answers. -/
def silent : Validators := fun _ _ => ⟨none, none⟩

/-- A hidden field is not checked, and the check that has begun does not hold the wizard up,
although its validator never answers. -/
theorem hidden_user_not_awaited :
    checkedFree.HoldsRun "user" ∧
    (∀ id r, (id, r) ∈ checkedFree.runs → r.finish silent checkedFree.now = ⊤) ∧
    ¬ (hiddenUserWizard.beforeWait [("user", .text "ada")] checkedFree).RunsFrom
      checkedFree.nextRun "user" ∧
    ¬ hiddenUserWizard.WaitsFor [("user", .text "ada")] checkedFree "user" ∧
    (hiddenUserWizard.nextAwaiting silent [("user", .text "ada")] checkedFree).2.2.now = 0 := by
  obtain ⟨_, _, hhidden, hwait⟩ :=
    shown_fields_keep_waiting hiddenUserWizard [("user", .text "ada")] {}
      [.onChange hiddenUser (.text "free")]
  obtain ⟨hstarted, hawaited, _⟩ := hhidden "user" (by decide)
  have hruns : checkedFree.runs =
      [(0, ⟨⟨"user", 1, .text "free"⟩, ⟨0⟩, 300, .scheduled⟩)] := by rfl
  refine ⟨⟨0, by decide, by decide⟩, ?_, hstarted, hawaited, ((hwait silent).1 0 rfl).1⟩
  intro id r hr
  rw [hruns, List.mem_singleton] at hr
  cases hr
  rfl

/-- The gate does not look at the field. -/
def disabledUser : FormField := { userField with isDisabled := true }

def disabledUserWizard : Wizard :=
  { schema := { fields := [("user", disabledUser)], rules := [] } }

/-- The validator of a disabled field is asked, and the wizard waits for the answer, which changes
nothing: the value is refused, and the step passes all the same. -/
theorem disabled_user_keeps_waiting :
    disabledUser ∈ disabledUserWizard.currentFields ∧ disabledUser.isDisabled = true ∧
    (disabledUserWizard.beforeWait [("user", .text "taken")] (Dispatcher.new {})).RunsFrom
      (Dispatcher.new {}).nextRun "user" ∧
    disabledUserWizard.WaitsFor [("user", .text "taken")] (Dispatcher.new {}) "user" ∧
    (disabledUserWizard.nextAwaiting refuseTaken [("user", .text "taken")]
      (Dispatcher.new {})).1 = .stayed 1 ∧
    (disabledUserWizard.nextAwaiting refuseTaken [("user", .text "taken")]
      (Dispatcher.new {})).2.2.now = 5 ∧
    (disabledUserWizard.nextAwaiting refuseTaken [("user", .text "taken")]
      (Dispatcher.new {})).2.2.inquiries.map Inquiry.value = [.text "taken"] := by
  have hrun : ((0, ⟨⟨"user", 1, .text "taken"⟩, ⟨0⟩, 0, .scheduled⟩) : Nat × Run) ∈
      (disabledUserWizard.beforeWait [("user", .text "taken")] (Dispatcher.new {})).runs := by
    decide
  exact ⟨by decide, rfl, ⟨0, _, hrun, by decide, rfl⟩, ⟨0, by decide, _, hrun, rfl⟩,
    by decide, by decide, by decide⟩

end Formwork
