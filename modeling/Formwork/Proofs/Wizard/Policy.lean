import Formwork.Pattern.Meaning
import Formwork.Proofs.Wizard.Gate

/-!
# Whose policy counts

What becomes of a value that nobody could decide on is a matter of policy, and there are two
places for one: the settings of the dispatcher, and the wizard.  Only the wizard looks at its
own.  Nothing a dispatcher does depends on the policy in its settings, and none of it shows
in what is known, so the report on a step cannot depend on it either.

* `Dispatcher.withPolicy` — another policy in the settings; each operation of a dispatcher
  commutes with the change, a move by `Dispatcher.apply_withPolicy` and a run of moves by
  `Dispatcher.play_withPolicy`;
* `Wizard.AwaitsTo.withPolicy`, `Wizard.nextAwaiting_withPolicy` — so does going on;
* `Wizard.next_moves_iff` — when a wizard moves on;
* `Wizard.unverified_passes_iff_wizard_allows` — a step with an undecided value is left exactly if
  the wizard allows it and nothing else stands in the way;
* `strict_settings_unheeded` — settings that ask to block such a value do not.
-/

namespace Formwork

namespace Dispatcher

/-- The same dispatcher with another policy in its settings. -/
def withPolicy (d : Dispatcher) (policy : UnverifiedPolicy) : Dispatcher :=
  { d with config := { d.config with policy } }

variable (d : Dispatcher) (policy : UnverifiedPolicy)

/-! ## What the settings have no part in -/

/-- The policy has no part in what a run can do, nor in when. -/
@[simp] theorem withPolicy_now : (d.withPolicy policy).now = d.now := rfl

@[simp] theorem withPolicy_ledger : (d.withPolicy policy).ledger = d.ledger := rfl

@[simp] theorem withPolicy_run? (id : Nat) : (d.withPolicy policy).run? id = d.run? id := rfl

@[simp] theorem withPolicy_isAlive : (d.withPolicy policy).isAlive = d.isAlive := rfl

@[simp] theorem withPolicy_nextTime? : (d.withPolicy policy).nextTime? = d.nextTime? := rfl

/-! ## What callers ask for -/

/-- The policy has no part in what cancelling does. -/
theorem cancel_withPolicy (field : String) :
    (d.withPolicy policy).cancel field = (d.cancel field).withPolicy policy := by
  unfold cancel
  cases h : d.handles.get? field <;> simp [withPolicy, h, stop]

/-- It has no part in how a run is started. -/
theorem startRun_withPolicy (field : String) (validator : ValidatorRef) (value : Value)
    (delay : Nat) : (d.withPolicy policy).startRun field validator value delay =
      (d.startRun field validator value delay).withPolicy policy := by
  unfold startRun
  cases h : d.handles.get? field <;> by_cases hs : d.hasScheduler <;>
    simp [withPolicy, h, hs, stop]

/-- So it has none in what a new value does. -/
theorem schedule_withPolicy (f : FormField) (value : Value) (delay : Nat) :
    (d.withPolicy policy).schedule f value delay =
      (d.schedule f value delay).withPolicy policy := by
  unfold schedule
  cases f.validator with
  | none => rfl
  | some validator =>
      dsimp only
      split
      · rw [cancel_withPolicy]
        rfl
      · exact d.startRun_withPolicy ..

/-- It has none in which values are checked before a wait. -/
theorem checkIfUnknown_withPolicy (known : Ledger) (values : Snapshot) (f : FormField) :
    (d.withPolicy policy).checkIfUnknown known values f =
      (d.checkIfUnknown known values f).withPolicy policy := by
  unfold checkIfUnknown
  cases values.resolve? f.nameText with
  | none => rfl
  | some v =>
      dsimp only
      split
      · exact d.schedule_withPolicy policy f v 0
      · rfl

/-! ## What runs do -/

variable (validators : Validators)

/-- The policy has no part in how a run gets on. -/
theorem progress_withPolicy (id : Nat) :
    (d.withPolicy policy).progress validators id =
      (d.progress validators id).withPolicy policy := by
  unfold progress
  rw [withPolicy_run?]
  cases d.run? id with
  | none => rfl
  | some r =>
      cases h : r.phase with
      | scheduled => simp only [h]; rfl
      | delayed t => simp only [h]; rfl
      | asking t =>
          simp only [h]
          cases (validators r.validator r.ticket.value).outcome <;> rfl

/-- Nor has it a part in whether a run can. -/
theorem progressIfDue_withPolicy (id : Nat) :
    (d.withPolicy policy).progressIfDue validators id =
      (d.progressIfDue validators id).withPolicy policy := by
  unfold progressIfDue
  rw [withPolicy_run?, withPolicy_now]
  cases d.run? id with
  | none => rfl
  | some r =>
      dsimp only
      split
      · exact d.progress_withPolicy policy validators id
      · rfl

/-- So it has none in how all runs get on. -/
theorem catchUp_withPolicy :
    (d.withPolicy policy).catchUp validators = (d.catchUp validators).withPolicy policy := by
  refine List.foldl_hom (fun e : Dispatcher => e.withPolicy policy) ?_
  intro e id
  simp only [catchUpRun, progressIfDue_withPolicy]

/-! ## Moves and waits -/

/-- Whatever happens to a dispatcher, the policy in its settings has no part in it. -/
theorem apply_withPolicy (m : Move) :
    m.apply (d.withPolicy policy) = (m.apply d).withPolicy policy := by
  cases m with
  | onChange f value => exact d.schedule_withPolicy policy f value _
  | validateNow f value => exact d.schedule_withPolicy policy f value 0
  | cancel field => exact d.cancel_withPolicy policy field
  | release fields => rfl
  | progress validators id => exact d.progressIfDue_withPolicy policy validators id
  | pass time => rfl

/-- It makes no difference to any moves. -/
theorem play_withPolicy (moves : List Move) :
    (d.withPolicy policy).play moves = (d.play moves).withPolicy policy :=
  List.foldl_hom (fun e : Dispatcher => e.withPolicy policy) fun e m =>
    e.apply_withPolicy policy m

/-- It makes no difference to a wait. -/
theorem waitThrough_withPolicy (ids : List Nat) (steps : Nat) :
    waitThrough validators ids steps (d.withPolicy policy) =
      (waitThrough validators ids steps d).withPolicy policy := by
  induction steps generalizing d with
  | zero => rfl
  | succ steps ih =>
      simp only [waitThrough, catchUp_withPolicy, withPolicy_isAlive, withPolicy_nextTime?]
      split
      · split
        · cases (d.catchUp validators).nextTime? with
          | none => rfl
          | some t => exact ih ((d.catchUp validators).passTo t)
        · rfl
      · rfl

/-- So it makes none to waiting for the runs of some fields. -/
theorem settleFields_withPolicy (fields : List String) :
    (d.withPolicy policy).settleFields validators fields =
      (d.settleFields validators fields).withPolicy policy :=
  (d.release fields).2.waitThrough_withPolicy policy validators _ _

end Dispatcher

/-! ## The gate -/

namespace Wizard

variable (w : Wizard) (values : Snapshot) (d : Dispatcher) (policy : UnverifiedPolicy)

/-- The policy makes no difference to the checks that are started for a step. -/
theorem foldl_checkIfUnknown_withPolicy (known : Ledger) (fields : List FormField) :
    fields.foldl (Dispatcher.checkIfUnknown known values) (d.withPolicy policy) =
      (fields.foldl (Dispatcher.checkIfUnknown known values) d).withPolicy policy :=
  List.foldl_hom (fun e : Dispatcher => e.withPolicy policy) fun e f =>
    e.checkIfUnknown_withPolicy policy known values f

variable [PatternEngine]

/-- So it makes none to what a wait begins with. -/
theorem beforeWait_withPolicy :
    w.beforeWait values (d.withPolicy policy) = (w.beforeWait values d).withPolicy policy := by
  unfold beforeWait
  rw [Dispatcher.withPolicy_ledger, foldl_checkIfUnknown_withPolicy]
  rfl

/-- Going on comes to the same, whatever the policy in the settings of the dispatcher and
however the runs get on. -/
theorem AwaitsTo.withPolicy {navigation : Navigation} {w' : Wizard} {e : Dispatcher}
    (h : w.AwaitsTo values d (navigation, w', e)) :
    w.AwaitsTo values (d.withPolicy policy) (navigation, w', e.withPolicy policy) := by
  obtain ⟨moves, hquiet, hout⟩ := h
  refine ⟨moves, hquiet, ?_⟩
  rw [beforeWait_withPolicy, Dispatcher.play_withPolicy]
  cases hout
  rfl

/-- Going on comes to the same, whatever the policy in the settings of the dispatcher. -/
theorem nextAwaiting_withPolicy (validators : Validators) :
    w.nextAwaiting validators values (d.withPolicy policy) =
      ((w.nextAwaiting validators values d).1, (w.nextAwaiting validators values d).2.1,
        (w.nextAwaiting validators values d).2.2.withPolicy policy) := by
  unfold nextAwaiting
  dsimp only
  rw [Dispatcher.withPolicy_ledger, foldl_checkIfUnknown_withPolicy,
    Dispatcher.settleFields_withPolicy]
  rfl

/-- A wizard moves on exactly if there is a further step and no finding on the current one
stands in the way. -/
theorem next_moves_iff {ledger : Ledger} :
    (∃ start finish, (w.next values ledger).1 = .moved start finish) ↔
      w.current < w.total ∧
        ∀ f ∈ w.currentFields, (f.examine w.schema.rules values (w.view ledger)).Passes := by
  have hvalid : (w.reportOnStep w.current values ledger).isValid = true ↔
      ∀ f ∈ w.currentFields, (f.examine w.schema.rules values (w.view ledger)).Passes := by
    refine (Report.isValid_ofFindings ..).trans ?_
    simp [currentFields]
  rw [← hvalid]
  unfold next
  dsimp only
  split
  · rename_i h
    split
    · rename_i hlast
      simp [Nat.not_lt.mpr hlast]
    · rename_i hlast
      simp [h, Nat.lt_of_not_le hlast]
  · rename_i h
    simp [h]

/-- **Whose policy counts.**  Whatever a dispatcher has been through and however its runs get
on, going on comes to the same under every policy in its settings.  With a value in the step
that nobody could decide on, the wizard moves on exactly if there is a further step, its own
policy allows it, and nothing else in the step stands in the way. -/
theorem unverified_passes_iff_wizard_allows (w : Wizard) (values : Snapshot)
    (d : Dispatcher) :
    (∀ validators, w.AwaitsTo values d (w.nextAwaiting validators values d) ∧
      ∀ policy, w.nextAwaiting validators values (d.withPolicy policy) =
        ((w.nextAwaiting validators values d).1, (w.nextAwaiting validators values d).2.1,
          (w.nextAwaiting validators values d).2.2.withPolicy policy)) ∧
    ∀ navigation w' e, w.AwaitsTo values d (navigation, w', e) →
      (∀ policy, w.AwaitsTo values (d.withPolicy policy)
        (navigation, w', e.withPolicy policy)) ∧
      ∀ f ∈ w.currentFields, f.isShown values = true → f.isDisabled = false →
        f.validator.isSome → ∀ v, values.resolve? f.nameText = some v →
          ∀ message, e.ledger.statusFor f.nameText v = .unverified message →
            ((∃ start finish, navigation = .moved start finish) ↔
              w.current < w.total ∧ w.policy = .allow ∧
                ∀ g ∈ w.currentFields,
                  (g.examine w.schema.rules values ⟨e.ledger, .allow⟩).Passes) := by
  refine ⟨fun validators => ⟨w.nextAwaiting_awaitsTo values d validators,
    fun policy => w.nextAwaiting_withPolicy values d policy validators⟩, ?_⟩
  intro navigation w' e hawaits
  refine ⟨fun policy => hawaits.withPolicy w values d policy, ?_⟩
  intro f hf hshown henabled hvalidator v hv message hstatus
  obtain ⟨moves, _, hout⟩ := hawaits
  cases hout
  rw [next_moves_iff]
  refine and_congr_right fun _ => ?_
  constructor
  · intro hpasses
    have hknown := FormField.ofStatus_passes (hpasses f hf) hshown henabled hvalidator hv
    -- the undecided value itself passes only under a policy that allows it
    have hallow : w.policy = .allow := by
      simpa [view, hstatus, Finding.passes_ofStatus_iff, AsyncStatus.LetsThrough] using hknown
    exact ⟨hallow, by simpa only [view, hallow] using hpasses⟩
  · rintro ⟨hallow, hpasses⟩
    simpa only [view, hallow] using hpasses

end Wizard

/-- A field of the first step that has an outside validator. -/
def firstUserField : FormField := { userField with step := some 1 }

/-- A form of two steps, with that field on the first one. -/
def twoStepWizard : Wizard where
  schema := {
    fields := [("user", firstUserField),
      ("note", { kind := .text, name := some "note", step := some 2 })]
    rules := [] }

/-- A validator that fails to decide. -/
def undecided : Validators := fun _ _ => ⟨some 5, some .undecided⟩

/-- What comes of going on past a value that nobody can decide on, with one policy in the
wizard and another in the settings of the dispatcher. -/
def goOnUndecided (ofWizard ofSettings : UnverifiedPolicy) : Navigation × Wizard × Dispatcher :=
  { twoStepWizard with policy := ofWizard }.nextAwaiting undecided [("user", .text "ada")]
    (.new { policy := ofSettings })

/-- A wizard that blocks such values does so, although the settings allow them. -/
theorem strict_wizard_stays :
    ¬ ∃ start finish, (goOnUndecided .block .allow).1 = .moved start finish := by
  obtain ⟨hawaits, hpolicy⟩ := Wizard.unverified_passes_iff_wizard_allows
    { twoStepWizard with policy := .block } [("user", .text "ada")] (.new { policy := .allow })
  have hmoves := (hpolicy _ _ _ (hawaits undecided).1).2 firstUserField (by decide) (by decide)
    rfl rfl (.text "ada") (by decide) unverifiedMessage (by decide)
  exact fun h => absurd (hmoves.mp h).2.1 (by decide)

/-- Settings that ask to block such a value are not heeded: the wizard moves off the step,
and the value of the field is still undecided. -/
theorem strict_settings_unheeded :
    (goOnUndecided .allow .block).2.2.config.policy = .block ∧
      (goOnUndecided .allow .block).1 = .moved 1 2 ∧
      firstUserField ∈ twoStepWizard.currentFields ∧
      firstUserField.isShown [("user", .text "ada")] = true ∧
      firstUserField.isDisabled = false ∧ firstUserField.validator.isSome ∧
      (Value.text "ada").isBlank = false ∧
      (goOnUndecided .allow .block).2.2.ledger.statusFor "user" (.text "ada") =
        .unverified unverifiedMessage := by
  decide

end Formwork
