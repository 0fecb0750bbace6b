import Formwork.Pattern.Meaning
import Formwork.Proofs.Wizard.WholeForm

/-!
# What the gate says of each field

The gate of a step goes through fields in order and sorts their names into four lists.  A name
comes into one list at most, and which one it is can be told from the field alone: whether it
is **open** (shown and not disabled), what its rule has against its value, and what is known
about that value outside.  A field that is not open counts for nothing, whatever it holds.

* `FormField.examine_cases` — the five ways in which the examination of a field goes;
* `examine_eq_error_iff` and its kin — when a field is found to be what;
* `Report.nodup_listed` — no name is listed twice, be it in one list or in two;
* `Schema.tells_report_self_iff` — a report says of each field what was found of it;
* `isValid_congr` — a report is valid or not by its open fields only;
* `gate_classifies_once` — all of this, and the report that asks no outside validators.
-/

namespace Formwork

/-! ## What is found of one field -/

namespace Finding

variable {policy : UnverifiedPolicy} {s : AsyncStatus}

/-- No status hides a field. -/
theorem ofStatus_ne_hidden : ofStatus policy s ≠ .hidden := by
  cases s with
  | unverified m => cases policy <;> simp [ofStatus]
  | _ => simp [ofStatus]

/-- A status counts as an error if the value was refused, or could not be decided on and that
blocks. -/
theorem ofStatus_eq_error_iff {message : String} : ofStatus policy s = .error message ↔
    s = .invalid message ∨ (s = .unverified message ∧ policy = .block) := by
  cases s with
  | unverified m => cases policy <;> simp [ofStatus]
  | _ => simp [ofStatus]

/-- It is let pass as undecided only where that is allowed. -/
theorem ofStatus_eq_unverified_iff : ofStatus policy s = .unverified ↔
    (∃ message, s = .unverified message) ∧ policy = .allow := by
  cases s with
  | unverified m => cases policy <;> simp [ofStatus]
  | _ => simp [ofStatus]

end Finding

namespace FormField

variable [PatternEngine] (f : FormField)

/-- The field is shown, and a value can be put into it. -/
def IsOpen (values : Snapshot) : Prop := f.isShown values = true ∧ f.isDisabled = false

instance (values : Snapshot) : Decidable (f.IsOpen values) :=
  inferInstanceAs (Decidable (_ ∧ _))

/-- What the rule of the field has against its value. -/
def complaint? (rules : Rules) (values : Snapshot) : Option String :=
  rules.check f.nameText (values.resolve? f.nameText)

/-- What is known outside about the value of the field; a missing value is null. -/
def known (ledger : Ledger) (values : Snapshot) : AsyncStatus :=
  ledger.statusFor f.nameText ((values.resolve? f.nameText).getD .null)

/-- The rule of the field has nothing against its value, and there is an outside validator
that may have. -/
def IsLeftToValidator (rules : Rules) (values : Snapshot) : Prop :=
  f.complaint? rules values = none ∧ f.validator ≠ none

/-- The examination of a field that asks no outside validator. -/
def examineByRule (rules : Rules) (values : Snapshot) : Finding :=
  if !f.isShown values then .hidden
  else if f.isDisabled then .sound
  else match f.complaint? rules values with
    | some message => .error message
    | none => .sound

/-- A field is hidden by nothing but a condition that evaluates to false. -/
theorem isShown_eq_false_iff (values : Snapshot) : f.isShown values = false ↔
    ∃ c, f.showWhen = some c ∧ c.evaluate values = .ok false := by
  unfold isShown isVisible
  cases f.showWhen with
  | none => simp
  | some c => cases hc : c.evaluate values <;> simp [hc]

/-- The five ways in which the examination of a field goes. -/
theorem examine_cases (rules : Rules) (values : Snapshot) (view : AsyncView) :
    (f.isShown values = false ∧ f.examine rules values view = .hidden) ∨
    (f.isShown values = true ∧ f.isDisabled = true ∧ f.examine rules values view = .sound) ∨
    (f.IsOpen values ∧ ∃ message, f.complaint? rules values = some message ∧
      f.examine rules values view = .error message) ∨
    (f.IsOpen values ∧ f.complaint? rules values = none ∧ f.validator = none ∧
      f.examine rules values view = .sound) ∨
    (f.IsOpen values ∧ f.IsLeftToValidator rules values ∧
      f.examine rules values view = .ofStatus view.policy (f.known view.ledger values)) := by
  unfold examine IsOpen IsLeftToValidator complaint? known
  dsimp only
  cases f.isShown values with
  | false => exact .inl ⟨rfl, rfl⟩
  | true =>
      cases f.isDisabled with
      | true => exact .inr (.inl ⟨rfl, rfl, rfl⟩)
      | false =>
          cases rules.check f.nameText (values.resolve? f.nameText) with
          | some message => exact .inr (.inr (.inl ⟨⟨rfl, rfl⟩, message, rfl, rfl⟩))
          | none =>
              cases f.validator with
              | none => exact .inr (.inr (.inr (.inl ⟨⟨rfl, rfl⟩, rfl, rfl, rfl⟩)))
              | some ref =>
                  exact .inr (.inr (.inr (.inr ⟨⟨rfl, rfl⟩, ⟨rfl, by simp⟩, rfl⟩)))

variable {f} {rules : Rules} {values : Snapshot} {view : AsyncView}

theorem IsOpen.shown (h : f.IsOpen values) : f.isShown values ≠ false := by
  simp [h.1]

/-- A field is found hidden exactly if it is not shown. -/
theorem examine_eq_hidden_iff :
    f.examine rules values view = .hidden ↔ f.isShown values = false := by
  rcases f.examine_cases rules values view with ⟨hhidden, hx⟩ | ⟨hshown, _, hx⟩ |
    ⟨hopen, _, _, hx⟩ | ⟨hopen, _, _, hx⟩ | ⟨hopen, _, hx⟩
  · simp [hx, hhidden]
  · simp [hx, hshown]
  · simp [hx, hopen.shown]
  · simp [hx, hopen.shown]
  · simp [hx, hopen.shown, Finding.ofStatus_ne_hidden]

/-- Only of an open field something else is found than that it is hidden or sound; its rule
says so, or its validator where the rule leaves the value to it. -/
theorem examine_eq_iff {x : Finding} (hhidden : x ≠ .hidden) (hsound : x ≠ .sound) :
    f.examine rules values view = x ↔ f.IsOpen values ∧
      ((∃ message, f.complaint? rules values = some message ∧ .error message = x) ∨
        (f.IsLeftToValidator rules values ∧
          .ofStatus view.policy (f.known view.ledger values) = x)) := by
  rcases f.examine_cases rules values view with ⟨h, hx⟩ | ⟨_, h, hx⟩ | ⟨hopen, _, hrule, hx⟩ |
    ⟨hopen, hrule, hvalidator, hx⟩ | ⟨hopen, hleft, hx⟩
  · have hclosed : ¬ f.IsOpen values := fun hopen => hopen.shown h
    simp [hx, hclosed, hhidden.symm]
  · have hclosed : ¬ f.IsOpen values := fun hopen => by simp [hopen.2] at h
    simp [hx, hclosed, hsound.symm]
  · simp [hx, hopen, hrule, IsLeftToValidator]
  · simp [hx, hrule, hvalidator, IsLeftToValidator, hsound.symm]
  · simp [hx, hopen, hleft, hleft.1]

/-- An error is found in an open field that its rule complains about, or that its validator
refused or could not decide on. -/
theorem examine_eq_error_iff {message : String} :
    f.examine rules values view = .error message ↔ f.IsOpen values ∧
      (f.complaint? rules values = some message ∨ (f.IsLeftToValidator rules values ∧
        (f.known view.ledger values = .invalid message ∨
          (f.known view.ledger values = .unverified message ∧ view.policy = .block)))) := by
  rw [examine_eq_iff (by simp) (by simp)]
  simp [Finding.ofStatus_eq_error_iff]

/-- An open field is found pending if its rule has nothing against it and a check is under way. -/
theorem examine_eq_pending_iff :
    f.examine rules values view = .pending ↔ f.IsOpen values ∧
      f.IsLeftToValidator rules values ∧ f.known view.ledger values = .pending := by
  rw [examine_eq_iff (by simp) (by simp)]
  simp [Finding.ofStatus_eq_pending_iff]

/-- An open field is found undecided if its validator could not decide on it and that is allowed.
-/
theorem examine_eq_unverified_iff :
    f.examine rules values view = .unverified ↔ f.IsOpen values ∧
      f.IsLeftToValidator rules values ∧
      (∃ message, f.known view.ledger values = .unverified message) ∧ view.policy = .allow := by
  rw [examine_eq_iff (by simp) (by simp)]
  simp [Finding.ofStatus_eq_unverified_iff]

/-- Where nothing is known outside, the rule of a field has the only say. -/
theorem examine_of_nothing_known (policy : UnverifiedPolicy) :
    f.examine rules values ⟨[], policy⟩ = f.examineByRule rules values := by
  have hidle : f.known [] values = .idle := by
    simp [known, Ledger.statusFor, Ledger.slot, Slot.fresh, Slot.isAbout]
  unfold examineByRule
  rcases f.examine_cases rules values ⟨[], policy⟩ with ⟨h, hx⟩ | ⟨hshown, h, hx⟩ |
    ⟨hopen, _, hrule, hx⟩ | ⟨hopen, hrule, _, hx⟩ | ⟨hopen, hleft, hx⟩
  · simp [hx, h]
  · simp [hx, hshown, h]
  · simp [hx, hopen.1, hopen.2, hrule]
  · simp [hx, hopen.1, hopen.2, hrule]
  · simp [hx, hopen.1, hopen.2, hleft.1, hidle, Finding.ofStatus]

/-- A field passes unless it is open, and its rule or its validator stands in the way. -/
theorem examine_passes_iff : (f.examine rules values view).Passes ↔
    (f.IsOpen values → f.complaint? rules values = none ∧ (f.validator ≠ none →
      f.known view.ledger values ≠ .pending ∧
      (∀ message, f.known view.ledger values ≠ .invalid message) ∧
      (view.policy = .block → ∀ message, f.known view.ledger values ≠ .unverified message))) := by
  rcases f.examine_cases rules values view with ⟨h, hx⟩ | ⟨_, h, hx⟩ | ⟨hopen, _, hrule, hx⟩ |
    ⟨hopen, hrule, hvalidator, hx⟩ | ⟨hopen, hleft, hx⟩
  · have hclosed : ¬ f.IsOpen values := fun hopen => hopen.shown h
    simp [hx, hclosed, Finding.Passes]
  · have hclosed : ¬ f.IsOpen values := fun hopen => by simp [hopen.2] at h
    simp [hx, hclosed, Finding.Passes]
  · simp [hx, hopen, hrule, Finding.Passes]
  · simp [hx, hrule, hvalidator, Finding.Passes]
  · rw [hx, Finding.passes_ofStatus_iff]
    cases hknown : f.known view.ledger values <;>
      cases hpolicy : view.policy <;>
      simp [hopen, hleft.1, hleft.2, AsyncStatus.LetsThrough]

end FormField

/-! ## The lists of a report -/

namespace Report

/-- All names that a report lists, with one list after the other. -/
def listed (r : Report) : List String :=
  r.errors.map FieldError.field ++ r.pending ++ r.unverified ++ r.hidden

variable {step : Option Nat} {findings : List (String × Finding)}

/-- Names are listed in the order of the fields. -/
theorem namesWith_sublist (x : Finding) :
    (namesWith findings x).Sublist (findings.map Prod.fst) :=
  List.filter_sublist.map Prod.fst

/-- So are errors. -/
theorem map_field_errors_sublist :
    ((ofFindings step findings).errors.map FieldError.field).Sublist
      (findings.map Prod.fst) := by
  refine map_filterMap_sublist (fun p e he => ?_) findings
  obtain ⟨_, _, rfl⟩ := Option.map_eq_some_iff.mp he
  rfl

/-- A field is listed with an error exactly if one was found. -/
theorem mem_map_field_errors_iff {name : String} :
    name ∈ (ofFindings step findings).errors.map FieldError.field ↔
      ∃ message, (name, .error message) ∈ findings := by
  constructor
  · intro h
    obtain ⟨⟨field, message⟩, he, rfl⟩ := List.mem_map.mp h
    exact ⟨message, (tells_ofFindings (x := .error message).mp he).1⟩
  · intro h
    obtain ⟨message, hmem⟩ := h
    have htells : (ofFindings step findings).Tells name (.error message) :=
      tells_ofFindings.mpr ⟨hmem, by simp⟩
    exact List.mem_map.mpr ⟨_, htells, rfl⟩

/-- Of names that are examined once no name is listed twice, in one list or in two. -/
theorem nodup_listed (h : (findings.map Prod.fst).Nodup) :
    (ofFindings step findings).listed.Nodup := by
  have hnames : ∀ x, (namesWith findings x).Nodup := fun x => h.sublist (namesWith_sublist x)
  have herrors : ((ofFindings step findings).errors.map FieldError.field).Nodup :=
    h.sublist map_field_errors_sublist
  -- Names of which something else was found are not among those with a finding.
  have hapart : ∀ {names : List String} {x}, (∀ a ∈ names, ∃ y, (a, y) ∈ findings ∧ y ≠ x) →
      ∀ a ∈ names, ∀ b ∈ namesWith findings x, a ≠ b := by
    intro names x helse a ha b hb hab
    subst hab
    obtain ⟨y, hy, hne⟩ := helse a ha
    exact hne (Prod.mk.inj (List.inj_on_of_nodup_map h hy (mem_namesWith.mp hb) rfl)).2
  have herror : ∀ {x}, (∀ message, .error message ≠ x) →
      ∀ a ∈ (ofFindings step findings).errors.map FieldError.field,
        ∃ y, (a, y) ∈ findings ∧ y ≠ x := by
    intro x hne a ha
    obtain ⟨message, hmem⟩ := mem_map_field_errors_iff.mp ha
    exact ⟨_, hmem, hne message⟩
  have hother : ∀ {x y : Finding}, y ≠ x → ∀ a ∈ namesWith findings y,
      ∃ z, (a, z) ∈ findings ∧ z ≠ x := fun hne a ha => ⟨_, mem_namesWith.mp ha, hne⟩
  have hpending := List.nodup_append.mpr
    ⟨herrors, hnames .pending, hapart (herror (by simp))⟩
  have hunverified := List.nodup_append.mpr ⟨hpending, hnames .unverified,
    hapart (List.forall_mem_append.mpr ⟨herror (by simp), hother (by simp)⟩)⟩
  exact List.nodup_append.mpr ⟨hunverified, hnames .hidden,
    hapart (List.forall_mem_append.mpr ⟨List.forall_mem_append.mpr
      ⟨herror (by simp), hother (by simp)⟩, hother (by simp)⟩)⟩

/-- Every list of a report keeps the order of the fields. -/
theorem sublist_of_mem_lists {names : List String}
    (h : names ∈ [(ofFindings step findings).errors.map FieldError.field,
      (ofFindings step findings).pending, (ofFindings step findings).unverified,
      (ofFindings step findings).hidden]) : names.Sublist (findings.map Prod.fst) := by
  simp only [List.mem_cons, List.not_mem_nil, or_false] at h
  rcases h with rfl | rfl | rfl | rfl
  · exact map_field_errors_sublist
  · exact namesWith_sublist .pending
  · exact namesWith_sublist .unverified
  · exact namesWith_sublist .hidden

end Report

/-! ## Fields and the report on them -/

namespace Schema

variable [PatternEngine] {s : Schema} {step : Option Nat} {fields : List FormField}
  {values : Snapshot}
  {view : AsyncView}

/-- A report on fields with names of their own says of each what was found of it. -/
theorem tells_report_self_iff (hnames : (fields.map FormField.nameText).Nodup) {f : FormField}
    (hf : f ∈ fields) {x : Finding} : (s.report step fields values view).Tells f.nameText x ↔
      f.examine s.rules values view = x ∧ x ≠ .sound := by
  rw [tells_report_iff]
  constructor
  · intro h
    obtain ⟨g, hg, hname, hx⟩ := h
    obtain rfl := List.inj_on_of_nodup_map hnames hg hf hname
    exact hx
  · intro h
    exact ⟨f, hf, rfl, h⟩

/-- There is one finding for each field, in their order. -/
theorem map_fst_findings : (fields.map fun f => (f.nameText, f.examine s.rules values view)).map
    Prod.fst = fields.map FormField.nameText := by
  rw [List.map_map]
  rfl

/-- A report is valid or not by its open fields: by what their rules have against their
values, and by what is known about these outside. -/
theorem isValid_congr {other : Schema} {otherValues : Snapshot} {otherView : AsyncView}
    (hpolicy : otherView.policy = view.policy)
    (hopen : ∀ f ∈ fields, f.IsOpen otherValues ↔ f.IsOpen values)
    (hsame : ∀ f ∈ fields, f.IsOpen values →
      f.complaint? other.rules otherValues = f.complaint? s.rules values ∧
      f.known otherView.ledger otherValues = f.known view.ledger values) :
    (other.report step fields otherValues otherView).isValid =
      (s.report step fields values view).isValid := by
  rw [Bool.eq_iff_iff, isValid_report_iff, isValid_report_iff]
  refine forall₂_congr ?_
  intro f hf
  rw [FormField.examine_passes_iff, FormField.examine_passes_iff, hopen f hf, hpolicy]
  refine imp_congr_right ?_
  intro h
  obtain ⟨hrule, hknown⟩ := hsame f hf h
  rw [hrule, hknown]

/-- Fields that are not open may be left out. -/
theorem isValid_filter_isOpen :
    (s.report step (fields.filter fun f => f.IsOpen values) values view).isValid =
      (s.report step fields values view).isValid := by
  rw [Bool.eq_iff_iff, isValid_report_iff, isValid_report_iff]
  simp only [List.mem_filter, decide_eq_true_eq, and_imp, FormField.examine_passes_iff]
  constructor
  · intro h f hf hopen
    exact h f hf hopen hopen
  · intro h f hf hopen _
    exact h f hf hopen

/-- The report that leaves outside validators aside asks the rules alone. -/
theorem validateStep_eq (n : Nat) : s.validateStep n values = .ofFindings (some n)
    ((s.fieldsOfStep n).map fun f => (f.nameText, f.examineByRule s.rules values)) := by
  unfold validateStep reportOnStep report
  simp only [FormField.examine_of_nothing_known]

end Schema

/-! ## Main statement -/

/-- **The gate classifies every field once.**  In a report on fields with names of their own
no name is listed twice, and every list keeps the order of the fields.  A name is among the
hidden ones exactly if the condition of the field evaluates to false, which is the verdict on
its visibility.  It is in another list only if the field is open: among the errors, with the
complaint of its rule or, if that has none, with what its validator says, undecided values
being errors under the blocking policy alone; among the pending or the unverified, if the rule
has nothing against the value and that is what is known of it.  So the report is valid exactly
if every open field passes its rule and none is pending, invalid or, under the blocking policy,
unverified; fields that are not open may be left out of it, and whatever they hold and whatever
rules and outcomes there are for them makes no difference.  And the report that asks no
outside validators is the one of a wizard that knows of no outcome, under any policy. -/
theorem gate_classifies_once [PatternEngine] (s : Schema) (step : Option Nat)
    (fields : List FormField)
    (hnames : (fields.map FormField.nameText).Nodup) (values : Snapshot) (view : AsyncView) :
    let r := s.report step fields values view
    (r.listed.Nodup ∧
      ∀ names ∈ [r.errors.map FieldError.field, r.pending, r.unverified, r.hidden],
        names.Sublist (fields.map FormField.nameText)) ∧
    (∀ f ∈ fields,
      (f.nameText ∈ r.hidden ↔ ∃ c, f.showWhen = some c ∧ c.evaluate values = .ok false) ∧
      (∀ key, s.fields.get? key = some f → ∃ verdict,
        (s.visibility values).get? key = some verdict ∧
          (f.nameText ∈ r.hidden ↔ verdict.isShown = false)) ∧
      (∀ message, ⟨f.nameText, message⟩ ∈ r.errors ↔ f.IsOpen values ∧
        (f.complaint? s.rules values = some message ∨ (f.IsLeftToValidator s.rules values ∧
          (f.known view.ledger values = .invalid message ∨
            (f.known view.ledger values = .unverified message ∧ view.policy = .block))))) ∧
      (f.nameText ∈ r.pending ↔ f.IsOpen values ∧ f.IsLeftToValidator s.rules values ∧
        f.known view.ledger values = .pending) ∧
      (f.nameText ∈ r.unverified ↔ f.IsOpen values ∧ f.IsLeftToValidator s.rules values ∧
        (∃ message, f.known view.ledger values = .unverified message) ∧
          view.policy = .allow)) ∧
    (r.isValid = true ↔ ∀ f ∈ fields, f.IsOpen values →
      f.complaint? s.rules values = none ∧ (f.validator ≠ none →
        f.known view.ledger values ≠ .pending ∧
        (∀ message, f.known view.ledger values ≠ .invalid message) ∧
        (view.policy = .block →
          ∀ message, f.known view.ledger values ≠ .unverified message))) ∧
    (s.report step (fields.filter fun f => f.IsOpen values) values view).isValid = r.isValid ∧
    (∀ (other : Schema) (otherValues : Snapshot) (otherView : AsyncView),
      otherView.policy = view.policy →
      (∀ f ∈ fields, f.IsOpen otherValues ↔ f.IsOpen values) →
      (∀ f ∈ fields, f.IsOpen values →
        f.complaint? other.rules otherValues = f.complaint? s.rules values ∧
        f.known otherView.ledger otherValues = f.known view.ledger values) →
      (other.report step fields otherValues otherView).isValid = r.isValid) ∧
    ∀ n, s.validateStep n values = .ofFindings (some n)
        ((s.fieldsOfStep n).map fun f => (f.nameText, f.examineByRule s.rules values)) ∧
      ∀ w : Wizard, w.schema = s → w.reportOnStep n values [] = s.validateStep n values := by
  intro r
  have hfst : (fields.map fun f => (f.nameText, f.examine s.rules values view)).map Prod.fst =
      fields.map FormField.nameText := Schema.map_fst_findings
  -- names are apart, so a list has the name of a field exactly for what was found of it
  have htells : ∀ f ∈ fields, ∀ x, x ≠ .sound →
      (r.Tells f.nameText x ↔ f.examine s.rules values view = x) := by
    intro f hf x hx
    rw [Schema.tells_report_self_iff hnames hf, and_iff_left hx]
  have hhidden : ∀ f ∈ fields, f.nameText ∈ r.hidden ↔ f.isShown values = false := by
    intro f hf
    exact (htells f hf .hidden (by simp)).trans FormField.examine_eq_hidden_iff
  refine ⟨⟨Report.nodup_listed (hfst ▸ hnames), ?_⟩, ?_, ?_, Schema.isValid_filter_isOpen, ?_, ?_⟩
  · intro names hmem
    rw [← hfst]
    exact Report.sublist_of_mem_lists hmem
  · intro f hf
    refine ⟨(hhidden f hf).trans (f.isShown_eq_false_iff values), ?_, ?_, ?_, ?_⟩
    · intro key hkey
      refine ⟨f.visibility values, ?_, ?_⟩
      · rw [Schema.visibility, Entries.get?_mapValues, hkey]
        rfl
      · rw [hhidden f hf, f.visibility_isShown]
    · intro message
      exact (htells f hf (.error message) (by simp)).trans FormField.examine_eq_error_iff
    · exact (htells f hf .pending (by simp)).trans FormField.examine_eq_pending_iff
    · exact (htells f hf .unverified (by simp)).trans FormField.examine_eq_unverified_iff
  · rw [Schema.isValid_report_iff]
    simp only [FormField.examine_passes_iff]
  · intro other otherValues otherView hpolicy hopen hsame
    exact Schema.isValid_congr hpolicy hopen hsame
  · intro n
    refine ⟨Schema.validateStep_eq n, ?_⟩
    intro w hw
    subst hw
    rw [Schema.validateStep_eq]
    unfold Wizard.reportOnStep Wizard.view Schema.reportOnStep Schema.report
    simp only [FormField.examine_of_nothing_known]

/-- Two fields with a validator, one that is required, and a required one that is shown only
beside a mail address. -/
def accountFields : List FormField :=
  [{ kind := .text, name := some "user", validator := some ⟨0⟩ },
    { kind := .text, name := some "nick", validator := some ⟨1⟩ },
    { kind := .email, name := some "mail", isRequired := true },
    { kind := .text, name := some "phone", isRequired := true,
      showWhen := some (.rule ⟨"mail", .present, none⟩) }]

def accountSchema : Schema where
  fields := accountFields.map fun f => (f.nameText, f)
  rules := accountFields.map fun f => (f.nameText, f.rule)

/-- The one value is being checked, nobody could decide on the other. -/
def accountView : AsyncView where
  ledger := [("user", ⟨1, some (.text "ada"), .pending⟩),
    ("nick", ⟨1, some (.text "al"), .unverified unverifiedMessage⟩)]

/-- Each of the four fields is in a list of its own, and the form does not pass. -/
theorem four_fields_classified :
    let r := accountSchema.report none accountFields
      [("user", .text "ada"), ("nick", .text "al")] accountView
    r.listed.Nodup ∧ "user" ∈ r.pending ∧ "nick" ∈ r.unverified ∧
      ⟨"mail", requiredMessage⟩ ∈ r.errors ∧ "phone" ∈ r.hidden ∧ r.isValid = false := by
  intro r
  obtain ⟨⟨hnodup, _⟩, hlists, hvalid, _⟩ := gate_classifies_once accountSchema none
    accountFields (by decide) [("user", .text "ada"), ("nick", .text "al")] accountView
  have hmem : ∀ i (h : i < accountFields.length), accountFields.get ⟨i, h⟩ ∈ accountFields :=
    fun i h => List.get_mem _ _
  obtain ⟨_, _, _, huser, _⟩ := hlists _ (hmem 0 (by decide))
  obtain ⟨_, _, _, _, hnick⟩ := hlists _ (hmem 1 (by decide))
  obtain ⟨_, _, hmail, _⟩ := hlists _ (hmem 2 (by decide))
  obtain ⟨hphone, _⟩ := hlists _ (hmem 3 (by decide))
  refine ⟨hnodup, huser.mpr ⟨by decide, ⟨by decide, by decide⟩, by decide⟩,
    hnick.mpr ⟨by decide, ⟨by decide, by decide⟩, ⟨unverifiedMessage, by decide⟩, rfl⟩,
    (hmail _).mpr ⟨by decide, .inl (by decide)⟩, hphone.mpr ⟨_, rfl, by decide⟩, ?_⟩
  rw [← Bool.not_eq_true, hvalid]
  intro hall
  have hrule := (hall _ (hmem 2 (by decide)) (by decide)).1
  exact absurd hrule (by decide)

end Formwork
