import Formwork.Wizard.Basic

/-!
# What lets a wizard go on

A wizard goes on from a step exactly if the report on it is valid, and a report is
valid exactly if no finding on one of the fields stands in the way.  So a step can be
judged field by field.

* `isValid_ofFindings` — a report is valid if all its findings pass;
* `next_passes_iff` and `next_eq_blocked` — the report decides;
* `passes_of_next` — what is known about a field of a step that was left behind.
-/

namespace Formwork

/-! ## Findings -/

/-- A check of the value is over, and its outcome lets the value through under this
policy. -/
def AsyncStatus.LetsThrough (policy : UnverifiedPolicy) : AsyncStatus → Prop
  | .valid => True
  | .unverified _ => policy = .allow
  | _ => False

namespace Finding

/-- The finding does not stand in the way. -/
def Passes : Finding → Prop
  | .error _ => False
  | .pending => False
  | _ => True

/-- A status passes if no check of the value is known, or if the outcome of one lets the
value through. -/
theorem passes_ofStatus_iff (policy : UnverifiedPolicy) (s : AsyncStatus) :
    (ofStatus policy s).Passes ↔ s = .idle ∨ s.LetsThrough policy := by
  cases s with
  | unverified m => cases policy <;> simp [ofStatus, Passes, AsyncStatus.LetsThrough]
  | idle => simp [ofStatus, Passes]
  | pending => simp [ofStatus, Passes, AsyncStatus.LetsThrough]
  | valid => simp [ofStatus, Passes, AsyncStatus.LetsThrough]
  | invalid m => simp [ofStatus, Passes, AsyncStatus.LetsThrough]

/-- A field is found pending exactly if its check is under way. -/
theorem ofStatus_eq_pending_iff (policy : UnverifiedPolicy) (s : AsyncStatus) :
    ofStatus policy s = .pending ↔ s = .pending := by
  cases s with
  | unverified m => cases policy <;> simp [ofStatus]
  | idle => simp [ofStatus]
  | pending => simp [ofStatus]
  | valid => simp [ofStatus]
  | invalid m => simp [ofStatus]

end Finding

namespace Ledger

/-- A check under way shows for every value of its field. -/
theorem statusFor_eq_pending_iff (l : Ledger) (field : String) (v : Value) :
    l.statusFor field v = .pending ↔ l.status field = .pending := by
  unfold statusFor status
  by_cases hp : (l.slot field).status = .pending
  · simp [hp]
  · rw [if_neg hp]
    refine iff_of_false ?_ hp
    split
    · exact hp
    · simp

end Ledger

namespace FormField

variable [PatternEngine] {f : FormField} {rules : Rules} {values : Snapshot} {view : AsyncView}

/-- A field is found pending only if its status is. -/
theorem status_of_examine_pending (h : f.examine rules values view = .pending) :
    view.ledger.status f.nameText = .pending := by
  unfold examine at h
  dsimp only at h
  split at h
  · cases h
  · split at h
    · cases h
    · split at h
      · cases h
      · split at h
        · cases h
        · rw [Finding.ofStatus_eq_pending_iff] at h
          exact (view.ledger.statusFor_eq_pending_iff ..).mp h

/-- If a field with an outside validator passes, what that is known to say about its
value passes too. -/
theorem ofStatus_passes (h : (f.examine rules values view).Passes)
    (hshown : f.isShown values = true) (henabled : f.isDisabled = false)
    (hvalidator : f.validator.isSome) {v : Value} (hv : values.resolve? f.nameText = some v) :
    (Finding.ofStatus view.policy (view.ledger.statusFor f.nameText v)).Passes := by
  unfold examine at h
  have hnone : f.validator.isNone = false := by
    cases hf : f.validator with
    | none => simp [hf] at hvalidator
    | some ref => rfl
  simp only [hshown, henabled, hnone, hv, Bool.not_true, Bool.false_eq_true, if_false] at h
  split at h
  · exact h.elim
  · exact h

end FormField

/-! ## Reports -/

namespace Report

/-- A name is listed exactly if this was found of it. -/
theorem mem_namesWith {findings : List (String × Finding)} {name : String} {x : Finding} :
    name ∈ namesWith findings x ↔ (name, x) ∈ findings := by
  simp only [namesWith, List.mem_map, List.mem_filter, decide_eq_true_eq]
  constructor
  · intro h
    obtain ⟨p, ⟨hp, rfl⟩, rfl⟩ := h
    exact hp
  · intro h
    exact ⟨_, ⟨h, rfl⟩, rfl⟩

/-- A report is valid exactly if all its findings pass. -/
theorem isValid_ofFindings (step : Option Nat) (findings : List (String × Finding)) :
    (ofFindings step findings).isValid = true ↔ ∀ p ∈ findings, p.2.Passes := by
  simp only [isValid, ofFindings, Bool.and_eq_true, List.isEmpty_iff]
  constructor
  · intro h p hp
    obtain ⟨herrors, hpending⟩ := h
    obtain ⟨name, x⟩ := p
    cases x with
    | error message =>
        have := List.filterMap_eq_nil_iff.mp herrors _ hp
        simp [Finding.errorMessage?] at this
    | pending => simpa [hpending] using mem_namesWith.mpr hp
    | hidden => trivial
    | sound => trivial
    | unverified => trivial
  · intro h
    constructor
    · refine List.filterMap_eq_nil_iff.mpr ?_
      intro h hp
      obtain ⟨name, x⟩ := h
      cases x with
      | error message => exact (h _ hp).elim
      | hidden => rfl
      | sound => rfl
      | pending => rfl
      | unverified => rfl
    · refine List.eq_nil_iff_forall_not_mem.mpr ?_
      intro name hname
      exact h _ (mem_namesWith.mp hname)

end Report

/-! ## Going on -/

namespace Navigation

/-- The step was let through, also where there is no further one. -/
def Passes : Navigation → Prop
  | .blocked _ => False
  | _ => True

end Navigation

namespace Wizard

variable [PatternEngine] {w : Wizard} {values : Snapshot} {ledger : Ledger}

/-- A wizard goes on exactly if the report on the current step is valid. -/
theorem next_passes_iff : (w.next values ledger).1.Passes ↔
    (w.reportOnStep w.current values ledger).isValid = true := by
  unfold next
  dsimp only
  split
  · rename_i hvalid
    refine iff_of_true ?_ hvalid
    split <;> trivial
  · rename_i hvalid
    exact iff_of_false id hvalid

/-- What blocks is the report on the current step. -/
theorem next_eq_blocked {report : Report} (h : (w.next values ledger).1 = .blocked report) :
    report = w.reportOnStep w.current values ledger := by
  unfold next at h
  dsimp only at h
  split at h
  · split at h <;> cases h
  · exact (Navigation.blocked.inj h).symm

/-- A wizard is kept waiting only for fields whose status is pending. -/
theorem status_of_next_blocked {report : Report} {field : String}
    (h : (w.next values ledger).1 = .blocked report) (hfield : field ∈ report.pending) :
    ledger.status field = .pending := by
  obtain rfl := next_eq_blocked h
  obtain ⟨f, _, hf⟩ := List.mem_map.mp (Report.mem_namesWith.mp hfield)
  obtain ⟨rfl, hpending⟩ := Prod.mk.inj hf
  exact FormField.status_of_examine_pending hpending

/-- What is known about the value of a field passes if the wizard goes on from its step. -/
theorem passes_of_next (h : (w.next values ledger).1.Passes) {f : FormField}
    (hf : f ∈ w.currentFields) (hshown : f.isShown values = true)
    (henabled : f.isDisabled = false) (hvalidator : f.validator.isSome) {v : Value}
    (hv : values.resolve? f.nameText = some v) :
    (Finding.ofStatus w.policy (ledger.statusFor f.nameText v)).Passes := by
  have hvalid := next_passes_iff.mp h
  have hpasses := (Report.isValid_ofFindings ..).mp hvalid _ (List.mem_map_of_mem hf)
  exact FormField.ofStatus_passes hpasses hshown henabled hvalidator hv

end Wizard

end Formwork
