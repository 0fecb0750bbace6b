import Formwork.Pattern.Meaning
import Formwork.Proofs.Condition.Absence
import Formwork.Proofs.Wizard.Classification

/-!
# Forms whose empty controls hold null

Rules for values and outside validators take a missing value for null, so of a field that is
shown the same is found whether an empty control is stored as null or not at all.  What is
left are the conditions, and these tell the two apart only where they ask whether a control
contains something without text.

* `FormField.examine_put_null` — a field that is shown or hidden as before is found as before;
* `Schema.reportOnForm_put_null_iff` — the report changes exactly if some field is shown or
  hidden by it;
* `null_counts_as_no_value` — conditions and the report under null in place of no value.
-/

namespace Formwork

/-- Null is no value to the rule of a field. -/
theorem FieldRule.check_null [PatternEngine] (r : FieldRule) :
    r.check (some .null) = r.check none := by
  simp [check, isBlank, Value.isBlank]

/-- Rules treat null as a missing value. -/
theorem Rules.check_null [PatternEngine] (rules : Rules) (name : String) :
    rules.check name (some .null) = rules.check name none := by
  simp only [check, FieldRule.check_null]

namespace FormField

variable {f : FormField} {values : Snapshot} {key : String}

/-- So they have the same against a field whose value is set to null as where it is missing. -/
theorem complaint?_put_null [PatternEngine] (hdot : '.' ∉ key.toList)
    (habsent : values.get? key = none)
    (rules : Rules) : f.complaint? rules (values.put key .null) = f.complaint? rules values := by
  unfold complaint?
  by_cases hname : f.nameText = key
  · rw [hname, Snapshot.resolve?_put_null_self, Snapshot.resolve?_of_absent hdot habsent]
    exact rules.check_null key
  · rw [Snapshot.resolve?_put_null_of_ne habsent hname]

/-- What is known outside is the same too. -/
theorem known_put_null (hdot : '.' ∉ key.toList) (habsent : values.get? key = none)
    (ledger : Ledger) : f.known ledger (values.put key .null) = f.known ledger values := by
  unfold known
  rw [Snapshot.getD_resolve?_put_null hdot habsent]

/-- A field that is shown or hidden as it was is found to be what it was. -/
theorem examine_put_null [PatternEngine] (hdot : '.' ∉ key.toList)
    (habsent : values.get? key = none)
    (hshown : f.isShown (values.put key .null) = f.isShown values) (rules : Rules)
    (view : AsyncView) :
    f.examine rules (values.put key .null) view = f.examine rules values view := by
  have hrule := complaint?_put_null (f := f) hdot habsent rules
  have hknown := known_put_null (f := f) hdot habsent view.ledger
  unfold complaint? at hrule
  unfold known at hknown
  simp only [examine, hshown, hrule, hknown]

end FormField

/-- The fields of a compiled form have names of their own. -/
theorem Form.nodup_nameText_of_compile [PatternEngine] {form : Form} {options : CompileOptions}
    {schema : Schema}
    (h : form.compile options = .ok schema) : (schema.fieldList.map FormField.nameText).Nodup := by
  have hnames : schema.fieldList.map FormField.nameText = schema.fields.keys := by
    unfold Schema.fieldList Entries.keys
    rw [List.map_map]
    exact List.map_congr_left fun entry hmem => nameText_of_compile h hmem
  rw [hnames]
  exact distinct_of_compile h

/-- Of fields with names of their own the report changes with null under a new key exactly if
one of them is shown or hidden by it. -/
theorem Schema.reportOnForm_put_null_iff [PatternEngine] {s : Schema}
    (hnames : (s.fieldList.map FormField.nameText).Nodup) {values : Snapshot} {key : String}
    (hdot : '.' ∉ key.toList) (habsent : values.get? key = none) (view : AsyncView) :
    s.reportOnForm (values.put key .null) view = s.reportOnForm values view ↔
      ∀ f ∈ s.fieldList, f.isShown (values.put key .null) = f.isShown values := by
  constructor
  · intro hreport f hf
    have hhidden : ∀ v : Snapshot, (s.reportOnForm v view).Tells f.nameText .hidden ↔
        f.isShown v = false := by
      intro v
      unfold reportOnForm
      rw [tells_report_self_iff hnames hf, FormField.examine_eq_hidden_iff]
      simp
    have hsame := (hhidden (values.put key .null)).symm.trans (hreport ▸ hhidden values)
    exact Bool.eq_iff_iff.mpr (by simpa using not_congr hsame)
  · intro hshown
    unfold reportOnForm report
    congr 1
    refine List.map_congr_left fun f hf => ?_
    rw [FormField.examine_put_null hdot habsent (hshown f hf)]

/-- **Null counts as no value, but for one question.**  Let a snapshot have no value under a
key, and put null there.  The outcomes of rules stay what they were, except for those that look
at the key and ask whether it contains what has no text: null does, and a missing value does
not.  If the evaluations of the conditions of a compiled form come to no such rule, every
condition has the same truth value or fault, and the report on the form is the same, whatever
is known outside and under either policy.  In any case the report changes exactly if a field is
shown or hidden by it. -/
theorem null_counts_as_no_value [PatternEngine] {form : Form} {options : CompileOptions}
    {compiled : Schema}
    (h : form.compile options = .ok compiled) (info : FormInfo) {values : Snapshot}
    {key : String} (hdot : '.' ∉ key.toList) (habsent : values.get? key = none) :
    let s : Schema := { compiled with info }
    let filled : Snapshot := values.put key .null
    (∀ r : Rule, r.outcome (filled.resolve? r.field) ≠ r.outcome (values.resolve? r.field) ↔
      r.field = key ∧ r.SeeksNothing) ∧
    ((∀ f ∈ s.fieldList, ∀ c, f.showWhen = some c → ∀ r, c.Reaches values (.rule r) →
        r.field = key → ¬ r.SeeksNothing) →
      (∀ f ∈ s.fieldList, ∀ c, f.showWhen = some c → c.evaluate filled = c.evaluate values) ∧
      ∀ view, s.reportOnForm filled view = s.reportOnForm values view) ∧
    ∀ view, s.reportOnForm filled view = s.reportOnForm values view ↔
      ∀ f ∈ s.fieldList, f.isShown filled = f.isShown values := by
  intro s filled
  have hreport : ∀ view, s.reportOnForm filled view = s.reportOnForm values view ↔
      ∀ f ∈ s.fieldList, f.isShown filled = f.isShown values := by
    intro view
    exact Schema.reportOnForm_put_null_iff (Form.nodup_nameText_of_compile h) hdot habsent view
  refine ⟨Rule.outcome_put_null_ne_iff hdot habsent, ?_, hreport⟩
  intro hnone
  have hevaluate : ∀ f ∈ s.fieldList, ∀ c, f.showWhen = some c →
      c.evaluate filled = c.evaluate values := by
    intro f hf c hc
    exact Condition.evaluate_put_null hdot habsent (hnone f hf c hc)
  refine ⟨hevaluate, fun view => (hreport view).mpr ?_⟩
  intro f hf
  unfold FormField.isShown isVisible
  cases hc : f.showWhen with
  | none => rfl
  | some c => simp only [hevaluate f hf c hc]

/-- The name contains a text. -/
def nameContains (part : String) : Condition := .rule ⟨"name", .contains, some (.text part)⟩

/-- A name, and a nickname that is asked for if the name contains a text. -/
def nicknameForm (part : String) : Form :=
  [("name", .field { kind := .text }),
    ("nick", .field { kind := .text, showWhen := some (nameContains part) })]

/-- The fields after compilation. -/
def nicknameFields (part : String) : List FormField :=
  [{ kind := .text, name := some "name" },
    { kind := .text, name := some "nick", showWhen := some (nameContains part) }]

/-- To a nickname that is asked for where the name has an `a`, a null name is no name. -/
theorem null_name_counts_as_none : ∃ schema,
    (nicknameForm "a").compile {} = .ok schema ∧ '.' ∉ "name".toList ∧
    Entries.get? ([] : Snapshot) "name" = none ∧
    ∀ view, schema.reportOnForm [("name", .null)] view = schema.reportOnForm [] view := by
  have hcompile := Form.compile_eq_ok (show (nicknameForm "a").fault? {} = none by decide +kernel)
  refine ⟨_, hcompile, by decide, rfl, ?_⟩
  have hfields : ((nicknameForm "a").flatFields {}).map Prod.snd = nicknameFields "a" := by
    decide +kernel
  have habsent : Entries.get? ([] : Snapshot) "name" = none := rfl
  refine ((null_counts_as_no_value hcompile {} (by decide) habsent).2.1 ?_).2
  intro f hf c hc r hr _ hseeks
  obtain ⟨_, v, hv, hnothing⟩ := hseeks
  have hmem : f ∈ nicknameFields "a" := by
    rw [← hfields]
    exact hf
  rcases List.mem_pair.mp hmem with rfl | rfl
  · cases hc
  · obtain rfl := Option.some.inj hc
    cases hr
    obtain rfl := Option.some.inj hv
    simp [Value.displayChars] at hnothing

/-- Where the name is to contain the empty text, a null name does and a missing one does not. -/
theorem null_holds_empty_text : ∃ schema,
    (nicknameForm "").compile {} = .ok schema ∧ '.' ∉ "name".toList ∧
    Entries.get? ([] : Snapshot) "name" = none ∧
    (schema.reportOnForm [] {}).hidden = ["nick"] ∧
    (schema.reportOnForm (Entries.put [] "name" .null) {}).hidden = [] := by
  have hcompile := Form.compile_eq_ok (show (nicknameForm "").fault? {} = none by decide +kernel)
  exact ⟨_, hcompile, by decide, rfl, by decide +kernel, by decide +kernel⟩

end Formwork
