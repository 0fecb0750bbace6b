import Formwork.CommandLine.Basic
import Formwork.Pattern.Meaning
import Formwork.Proofs.Compilation.WellFormed
import Formwork.Proofs.Wizard.Runs

/-!
# The gate of the form and the gates of its steps

The report on a form goes through all fields at once, the report on a step through the
fields of that step.  Of a form that was compiled both come to the same: every field is on
one step and no more, and that step is among those that the wizard goes through, so what
the report on the form says of a field is said by the report on its step, and by no other.

* `Report.Tells` — what a report says of a name; `tells_report_iff` puts it down to the field;
* `Stepped.oneStep` — every field of a compiled form is on exactly one of the steps;
* `tells_step_iff` — the report on a step says what the report on the form says of its fields;
* `isValid_form_iff` — the form passes exactly if all of its steps do;
* `form_gate_is_conjunction` — all of this, with what follows for sending a form off and for
  the command that checks values.
-/

namespace Formwork

/-! ## What a report says -/

namespace Report

/-- What a report says of a name: the finding on its field, with the message if there is
one.  Of a field that is sound it says nothing. -/
def Tells (r : Report) (name : String) : Finding → Prop
  | .error message => ⟨name, message⟩ ∈ r.errors
  | .pending => name ∈ r.pending
  | .unverified => name ∈ r.unverified
  | .hidden => name ∈ r.hidden
  | .sound => False

/-- A report tells what was found, but for fields with which all is well. -/
theorem tells_ofFindings {step : Option Nat} {findings : List (String × Finding)}
    {name : String} {x : Finding} :
    (ofFindings step findings).Tells name x ↔ (name, x) ∈ findings ∧ x ≠ .sound := by
  cases x with
  | sound => simp [Tells]
  | pending => simp [Tells, ofFindings, mem_namesWith]
  | unverified => simp [Tells, ofFindings, mem_namesWith]
  | hidden => simp [Tells, ofFindings, mem_namesWith]
  | error message =>
      simp only [Tells, ofFindings, List.mem_filterMap, Option.map_eq_some_iff, ne_eq,
        reduceCtorEq, not_false_eq_true, and_true, Prod.exists, FieldError.mk.injEq]
      constructor
      · intro h
        obtain ⟨n, y, hmem, m, hy, rfl, rfl⟩ := h
        cases y with
        | error m' =>
            obtain rfl := Option.some.inj hy
            exact hmem
        | _ => cases hy
      · intro h
        exact ⟨name, _, h, message, rfl, rfl, rfl⟩

end Report

namespace Schema

variable {s : Schema} {values : Snapshot} {view : AsyncView}

/-- So a report on some fields tells what was found of them. -/
theorem tells_report_iff [PatternEngine] {step : Option Nat} {fields : List FormField}
    {name : String} {x : Finding} : (s.report step fields values view).Tells name x ↔
      ∃ f ∈ fields, f.nameText = name ∧ f.examine s.rules values view = x ∧ x ≠ .sound := by
  unfold report
  rw [Report.tells_ofFindings, List.mem_map]
  constructor
  · intro h
    obtain ⟨⟨f, hf, heq⟩, hx⟩ := h
    obtain ⟨hname, hfinding⟩ := Prod.mk.inj heq
    exact ⟨f, hf, hname, hfinding, hx⟩
  · intro h
    obtain ⟨f, hf, hname, hfinding, hx⟩ := h
    exact ⟨⟨f, hf, Prod.ext hname hfinding⟩, hx⟩

/-- It is valid exactly if all of them pass. -/
theorem isValid_report_iff [PatternEngine] {step : Option Nat} {fields : List FormField} :
    (s.report step fields values view).isValid = true ↔
      ∀ f ∈ fields, (f.examine s.rules values view).Passes := by
  unfold report
  rw [Report.isValid_ofFindings, List.forall_mem_map]

/-! ## The steps of the fields -/

theorem mem_fieldsOfStep_iff {f : FormField} {n : Nat} :
    f ∈ s.fieldsOfStep n ↔ f ∈ s.fieldList ∧ f.effectiveStep = n := by
  simp [fieldsOfStep]

theorem mem_fieldList_iff {f : FormField} : f ∈ s.fieldList ↔ ∃ name, (name, f) ∈ s.fields := by
  simp [fieldList]

end Schema

/-- The wizard goes through the steps of all fields. -/
theorem Schema.effectiveStep_le_totalSteps {s : Schema} {f : FormField} (h : f ∈ s.fieldList) :
    f.effectiveStep ≤ s.totalSteps :=
  (foldl_max_le_iff.mp (Nat.le_refl _)).2 _ (List.mem_append_right _ (List.mem_map_of_mem h))

namespace Form

variable [PatternEngine] {form : Form} {options : CompileOptions} {schema : Schema}

/-- A compiled field goes by the name that it is listed under. -/
theorem nameText_of_compile (h : form.compile options = .ok schema) {name : String}
    {f : FormField} (hf : (name, f) ∈ schema.fields) : f.nameText = name := by
  obtain ⟨position, l, _, hl⟩ := becomes_of_compile h hf
  simp [FormField.nameText, hl.named]

/-- A field of a compiled form is known by its name. -/
theorem eq_of_nameText_eq (h : form.compile options = .ok schema) {f g : FormField}
    (hf : f ∈ schema.fieldList) (hg : g ∈ schema.fieldList) (hname : f.nameText = g.nameText) :
    f = g := by
  obtain ⟨a, ha⟩ := Schema.mem_fieldList_iff.mp hf
  obtain ⟨b, hb⟩ := Schema.mem_fieldList_iff.mp hg
  rw [nameText_of_compile h ha, nameText_of_compile h hb] at hname
  subst hname
  have hfound := Entries.get?_of_mem (distinct_of_compile h) ha
  rw [Entries.get?_of_mem (distinct_of_compile h) hb] at hfound
  exact (Option.some.inj hfound).symm

/-- No compiled field is on a step before the first. -/
theorem one_le_effectiveStep (h : form.compile options = .ok schema) {f : FormField}
    (hf : f ∈ schema.fieldList) : 1 ≤ f.effectiveStep := by
  obtain ⟨name, hmem⟩ := Schema.mem_fieldList_iff.mp hf
  obtain ⟨position, l, _, hl⟩ := becomes_of_compile h hmem
  have hne := hl.step_ne_zero
  unfold FormField.effectiveStep
  cases hstep : f.step with
  | none => exact Nat.le_refl 1
  | some n =>
      rw [hstep] at hne
      exact Nat.pos_of_ne_zero fun hzero => hne (congrArg some hzero)

end Form

/-! ## The form and its steps -/

/-- A schema whose fields are on steps from 1 on and known by their names.  Compiled forms are
so, whatever information is added to them. -/
structure Schema.Stepped (s : Schema) : Prop where
  one_le : ∀ f ∈ s.fieldList, 1 ≤ f.effectiveStep
  eq_of_name : ∀ f ∈ s.fieldList, ∀ g ∈ s.fieldList, f.nameText = g.nameText → f = g

/-- The steps of a compiled schema begin with the first, whatever is said about the form. -/
theorem Form.stepped_of_compile [PatternEngine] {form : Form} {options : CompileOptions}
    {compiled : Schema} (h : form.compile options = .ok compiled) (info : FormInfo) :
    Schema.Stepped { compiled with info } where
  one_le _ hf := one_le_effectiveStep h hf
  eq_of_name _ hf _ hg := eq_of_nameText_eq h hf hg

namespace Schema

variable {s : Schema} {values : Snapshot} {view : AsyncView}

/-- Every field is on exactly one step, and the wizard goes through that step. -/
theorem Stepped.oneStep (h : s.Stepped) {f : FormField} (hf : f ∈ s.fieldList) :
    ∃ n, (1 ≤ n ∧ n ≤ s.totalSteps) ∧ ∀ m, f ∈ s.fieldsOfStep m ↔ m = n := by
  refine ⟨f.effectiveStep, ⟨h.one_le f hf, effectiveStep_le_totalSteps hf⟩, ?_⟩
  intro m
  rw [mem_fieldsOfStep_iff, and_iff_right hf, eq_comm]

variable [PatternEngine]

/-- The report on a step says of a field what the report on the form says of it, if the
field is on that step, and nothing otherwise. -/
theorem Stepped.tells_step_iff (h : s.Stepped) {f : FormField} (hf : f ∈ s.fieldList)
    {n : Nat} {x : Finding} : (s.reportOnStep n values view).Tells f.nameText x ↔
      f ∈ s.fieldsOfStep n ∧ (s.reportOnForm values view).Tells f.nameText x := by
  unfold reportOnStep reportOnForm
  rw [tells_report_iff, tells_report_iff]
  constructor
  · intro htells
    obtain ⟨g, hg, hname, hfinding⟩ := htells
    have hgl := (mem_fieldsOfStep_iff.mp hg).1
    obtain rfl := h.eq_of_name g hgl f hf hname
    exact ⟨hg, g, hgl, rfl, hfinding⟩
  · intro htells
    obtain ⟨hstep, g, hg, hname, hfinding⟩ := htells
    obtain rfl := h.eq_of_name g hg f hf hname
    exact ⟨g, hstep, rfl, hfinding⟩

/-- Reports say nothing but of fields. -/
theorem exists_field_of_tells_form {name : String} {x : Finding}
    (h : (s.reportOnForm values view).Tells name x) : ∃ f ∈ s.fieldList, f.nameText = name := by
  obtain ⟨f, hf, hname, _⟩ := tells_report_iff.mp h
  exact ⟨f, hf, hname⟩

/-- What the report on a step tells is of a field of the form. -/
theorem exists_field_of_tells_step {name : String} {x : Finding} {n : Nat}
    (h : (s.reportOnStep n values view).Tells name x) :
    ∃ f ∈ s.fieldList, f.nameText = name := by
  obtain ⟨f, hf, hname, _⟩ := tells_report_iff.mp h
  exact ⟨f, (mem_fieldsOfStep_iff.mp hf).1, hname⟩

/-- A form passes exactly if each of its steps does. -/
theorem Stepped.isValid_form_iff (h : s.Stepped) :
    (s.reportOnForm values view).isValid = true ↔
      ∀ n, 1 ≤ n → n ≤ s.totalSteps → (s.reportOnStep n values view).isValid = true := by
  unfold reportOnStep reportOnForm
  rw [isValid_report_iff]
  simp only [isValid_report_iff]
  constructor
  · intro hall n _ _ f hf
    exact hall f (mem_fieldsOfStep_iff.mp hf).1
  · intro hall f hf
    exact hall f.effectiveStep (h.one_le f hf) (effectiveStep_le_totalSteps hf) f
      (mem_fieldsOfStep_iff.mpr ⟨hf, rfl⟩)

end Schema

/-! ## Sending off, and checking from the command line -/

/-- Where only valid forms may be sent off, one that may be is valid. -/
theorem Wizard.reportOnForm_isValid_of_submitEnabled [PatternEngine] {w : Wizard}
    {values : Snapshot} {ledger : Ledger} (hsubmit : w.submitEnabled values ledger = true)
    (hinfo : w.schema.info.disableOnInvalid = true) :
    (w.reportOnForm values ledger).isValid = true := by
  simp only [submitEnabled, hinfo, Bool.not_true, Bool.false_or, Bool.and_eq_true] at hsubmit
  exact hsubmit.2

namespace Command

/-- Where no step is named, all are checked. -/
theorem mem_checkedSteps_none {schema : Schema} {n : Nat} :
    n ∈ checkedSteps schema none ↔ 1 ≤ n ∧ n ≤ schema.totalSteps := by
  unfold checkedSteps
  rw [List.mem_map]
  constructor
  · intro h
    obtain ⟨m, hm, rfl⟩ := h
    have hlt := List.mem_range.mp hm
    omega
  · intro h
    exact ⟨n - 1, List.mem_range.mpr (by omega), by omega⟩

variable [PatternEngine]

/-- A check of all steps ends with 2 exactly if the report on the form is not valid. -/
theorem checkEnding_code_eq_two_iff {schema : Schema} (h : schema.Stepped) (values : Snapshot) :
    (checkEnding schema values none).code = 2 ↔
      ¬ (schema.reportOnForm values {}).isValid = true := by
  have hcode : (checkEnding schema values none).code = 2 ↔
      ¬ ∀ n ∈ checkedSteps schema none, (schema.validateStep n values).isValid = true := by
    simp [checkEnding]
  rw [hcode, h.isValid_form_iff]
  simp only [mem_checkedSteps_none, and_imp, Schema.validateStep]

/-- What is loaded from a definition is a form that was compiled. -/
theorem exists_form_of_loadSchema {files : Files} {path : String} {naming : Naming}
    {schema : Schema} (h : loadSchema files path naming = .ok schema) :
    ∃ form : Form, form.compile { naming } = .ok schema := by
  unfold loadSchema at h
  cases htext : readFile files path "form definition" with
  | error e => simp [htext, bind, Except.bind] at h
  | ok text =>
      simp only [htext, bind, Except.bind] at h
      split at h
      · cases h
      · rename_i form _
        split at h
        · rename_i compiled hcompile
          obtain rfl := Except.ok.inj h
          exact ⟨form, hcompile⟩
        · cases h

/-- The exit code is two exactly if the files were loaded and the form is not valid. -/
theorem run_check_code_eq_two_iff {files : Files} {definitionPath valuesPath : String}
    {naming : Naming} :
    (Command.run files (.check definitionPath valuesPath none naming)).code = 2 ↔
      ∃ schema values, loadSchema files definitionPath naming = .ok schema ∧
        loadValues files valuesPath = .ok values ∧
        ¬ (schema.reportOnForm values {}).isValid = true := by
  cases hschema : loadSchema files definitionPath naming with
  | error e => simp [run, hschema, bind, Except.bind]
  | ok schema =>
      cases hvalues : loadValues files valuesPath with
      | error e => simp [run, hschema, hvalues, bind, Except.bind]
      | ok values =>
          obtain ⟨form, hform⟩ := exists_form_of_loadSchema hschema
          have hstepped := Form.stepped_of_compile hform schema.info
          have hrun : run files (.check definitionPath valuesPath none naming) =
              checkEnding schema values none := by
            simp [run, hschema, hvalues, bind, Except.bind, pure, Except.pure]
          rw [hrun, checkEnding_code_eq_two_iff hstepped]
          simp

end Command

/-- **The gate of the form is the conjunction of the gates of its steps.**  Every field of a
compiled form, whatever information was added to it, is on exactly one of the steps that the
wizard goes through.  What the report on the form says of the field is said by the report on
that step and by no other, and no report says anything but of fields.  So the form passes
exactly if all of its steps do; where it may be sent off only when it is valid, all of them
pass if it may; and a check of all steps ends with 2 exactly if the report on the form that
was loaded is not valid. -/
theorem form_gate_is_conjunction [PatternEngine] {form : Form} {options : CompileOptions}
    {compiled : Schema} (h : form.compile options = .ok compiled) (info : FormInfo) (w : Wizard)
    (hw : w.schema = { compiled with info }) (values : Snapshot) (ledger : Ledger) :
    (∀ f ∈ w.schema.fieldList, ∃ n, (1 ≤ n ∧ n ≤ w.total) ∧
      (∀ m, f ∈ w.schema.fieldsOfStep m ↔ m = n) ∧
      ∀ m x, (w.reportOnStep m values ledger).Tells f.nameText x ↔
        m = n ∧ (w.reportOnForm values ledger).Tells f.nameText x) ∧
    (∀ name x, (w.reportOnForm values ledger).Tells name x →
      ∃ f ∈ w.schema.fieldList, f.nameText = name) ∧
    (∀ n name x, (w.reportOnStep n values ledger).Tells name x →
      ∃ f ∈ w.schema.fieldList, f.nameText = name) ∧
    ((w.reportOnForm values ledger).isValid = true ↔
      ∀ n, 1 ≤ n → n ≤ w.total → (w.reportOnStep n values ledger).isValid = true) ∧
    (w.submitEnabled values ledger = true → info.disableOnInvalid = true →
      ∀ n, 1 ≤ n → n ≤ w.total → (w.reportOnStep n values ledger).isValid = true) ∧
    ∀ files definitionPath valuesPath naming,
      ((Command.run files (.check definitionPath valuesPath none naming)).code = 2 ↔
        ∃ schema snapshot, Command.loadSchema files definitionPath naming = .ok schema ∧
          Command.loadValues files valuesPath = .ok snapshot ∧
          ¬ (schema.reportOnForm snapshot {}).isValid = true) := by
  have hstepped : w.schema.Stepped := hw ▸ Form.stepped_of_compile h info
  have hvalid : (w.reportOnForm values ledger).isValid = true ↔
      ∀ n, 1 ≤ n → n ≤ w.total → (w.reportOnStep n values ledger).isValid = true :=
    hstepped.isValid_form_iff
  refine ⟨?_, ?_, ?_, hvalid, ?_, ?_⟩
  · intro f hf
    obtain ⟨n, hn, honly⟩ := hstepped.oneStep hf
    refine ⟨n, hn, honly, ?_⟩
    intro m x
    rw [← honly m]
    exact hstepped.tells_step_iff hf
  · intro name x htells
    exact Schema.exists_field_of_tells_form htells
  · intro n name x htells
    exact Schema.exists_field_of_tells_step htells
  · intro hsubmit hinfo
    refine hvalid.mp (Wizard.reportOnForm_isValid_of_submitEnabled hsubmit ?_)
    rw [hw]
    exact hinfo
  · intro files definitionPath valuesPath naming
    exact Command.run_check_code_eq_two_iff

/-- A name on the first step and, by their group, two fields on the second; the phone number
is asked for only beside a mail address. -/
def contactForm : Form :=
  [("name", .field { kind := .text, isRequired := true }),
    ("contact", .group { step := some 2 }
      [("mail", .field { kind := .email, isRequired := true }),
        ("phone", .field { kind := .text, showWhen := some (.rule ⟨"mail", .present, none⟩) })])]

/-- A wizard on the second step of a form that may be sent off only when it is valid. -/
def contactWizard (compiled : Schema) : Wizard where
  schema := { compiled with info := { disableOnInvalid := true } }
  current := 2

/-- A mail address that is missing is told by the second step, and keeps the form back. -/
theorem mail_keeps_form_back : ∃ compiled, contactForm.compile {} = .ok compiled ∧
    let w := contactWizard compiled
    (w.reportOnForm [("name", .text "Ada")] []).Tells "mail" (.error requiredMessage) ∧
    (w.reportOnStep 2 [("name", .text "Ada")] []).Tells "mail" (.error requiredMessage) ∧
    ¬ (w.reportOnStep 1 [("name", .text "Ada")] []).Tells "mail" (.error requiredMessage) ∧
    (w.reportOnForm [("name", .text "Ada")] []).Tells "phone" .hidden ∧
    w.submitEnabled [("name", .text "Ada")] [] = false := by
  have hcompile := Form.compile_eq_ok (show contactForm.fault? {} = none by decide +kernel)
  refine ⟨_, hcompile, ?_⟩
  intro w
  obtain ⟨hfields, _, _, _, hsubmit, _⟩ := form_gate_is_conjunction hcompile
    { disableOnInvalid := true } w rfl [("name", .text "Ada")] []
  have hform : (w.reportOnForm [("name", .text "Ada")] []).Tells "mail"
      (.error requiredMessage) := by
    simp only [Report.Tells]
    decide +kernel
  have hstep : ¬ (w.reportOnStep 2 [("name", .text "Ada")] []).isValid = true := by
    decide +kernel
  -- the mail address is the second field, and on the second step
  have hmail : w.schema.fieldList.get ⟨1, by decide +kernel⟩ ∈ w.schema.fieldList :=
    List.get_mem _ _
  obtain ⟨n, _, honly, htells⟩ := hfields _ hmail
  obtain rfl : 2 = n := (honly 2).mp (by decide +kernel)
  refine ⟨hform, (htells 2 _).mpr ⟨rfl, hform⟩, ?_, ?_, ?_⟩
  · intro hfirst
    cases ((htells 1 _).mp hfirst).1
  · simp only [Report.Tells]
    decide +kernel
  · rw [← Bool.not_eq_true]
    intro henabled
    exact hstep (hsubmit henabled rfl 2 (by decide) (by decide +kernel))

end Formwork
