import Formwork.Proofs.Definition.Written
import Formwork.Proofs.Json.Text
import Formwork.Schema.Json
import Formwork.Wizard.Report

/-!
# Schemas that are written and read back

A schema is written as the record of its fields, its rules and the information about the
form.  What is read of the text is the schema without the defaults and the operands that
are null, if the text does not nest deeper than a reader has room for, and nothing if it
does.

* `Schema.Writable` — the schemas that a text can carry;
* `Schema.forgetNulls` — a schema without the defaults and the operands that are null;
* `Schema.ofText?_compact` — this is what is read of the text of a schema;
* `Schema.forgetNulls_eq_self_iff` — it is the same schema exactly if there is no such null;
* `Schema.visibility_forgetNulls` and `Schema.reportOnStep_forgetNulls` — its answers are the
  same in every snapshot in which no condition comes to such a null.
-/

namespace Formwork

open Formwork.Tree Value

/-! ## Information about a form -/

namespace WizardStep

def slots (w : WizardStep) : List MemberSlot :=
  [("number", some (.ofNat w.number)), ("title", some (.text w.title)),
    ("description", w.description.map .text)]

/-- A step is written as its slots say. -/
theorem toValue_eq_ofSlots (w : WizardStep) : w.toValue = .record (ofSlots w.slots) := by
  unfold toValue slots
  cases w.description <;> rfl

theorem nodup_names (w : WizardStep) : (w.slots.map Prod.fst).Nodup := by simp [slots]

/-- A step can be written if its number can. -/
theorem writable_toValue {w : WizardStep} (h : w.number < Nat.pow 2 32) : w.toValue.Writable := by
  rw [toValue_eq_ofSlots]
  refine writable_ofSlots w.nodup_names ?_
  simp only [slots, List.forall_mem_cons]
  exact ⟨slotWritable_some (writable_ofNat (Nat.lt_trans h (by decide))),
    slotWritable_some (.text w.title), slotWritable_text w.description, nofun⟩

/-- So a step is read as itself. -/
theorem reads_toValue {w : WizardStep} (h : w.number < Nat.pow 2 32) :
    Reads ofTree? w.toValue w := by
  rw [toValue_eq_ofSlots]
  unfold ofTree?
  refine reads_structure w.nodup_names false ?_
  intro room
  simp only [slots, List.map_cons, List.map_nil, (reads_nat32 h).required room,
    (reads_text w.title).required room, readsSlot_text w.description room, bind_ite,
    fits_cons_iff, fits_nil_iff, and_true, ite_and]
  rfl

end WizardStep

namespace FormInfo

/-- A text can carry the information: the numbers of the steps have 32 bits. -/
def Writable (i : FormInfo) : Prop := ∀ w ∈ i.steps, w.number < Nat.pow 2 32

def slots (i : FormInfo) : List MemberSlot :=
  [("title", i.title.map .text), ("description", i.description.map .text),
    ("submitLabel", i.submitLabel.map .text),
    ("steps", if i.steps.isEmpty then none else some (.list (i.steps.map WizardStep.toValue))),
    ("disableOnInvalid", some (.bool i.disableOnInvalid))]

/-- What is said of a form is written as its slots say. -/
theorem toValue_eq_ofSlots (i : FormInfo) : i.toValue = .record (ofSlots i.slots) := by
  unfold toValue slots
  cases i.steps.isEmpty <;> simp [ofSlots_cons_map]

theorem nodup_names (i : FormInfo) : (i.slots.map Prod.fst).Nodup := by simp [slots]

/-- What is said of a form can be written if its numbers can. -/
theorem writable_toValue {i : FormInfo} (h : i.Writable) : i.toValue.Writable := by
  rw [toValue_eq_ofSlots]
  refine writable_ofSlots i.nodup_names ?_
  simp only [slots, List.forall_mem_cons]
  exact ⟨slotWritable_text i.title, slotWritable_text i.description,
    slotWritable_text i.submitLabel,
    slotWritable_list fun w hw => WizardStep.writable_toValue (h w hw),
    slotWritable_some (.bool i.disableOnInvalid), nofun⟩

/-- So it is read as itself. -/
theorem reads_toValue {i : FormInfo} (h : i.Writable) : Reads ofTree? i.toValue i := by
  have hsteps := readsSlot_list fun w hw => WizardStep.reads_toValue (h w hw)
  rw [toValue_eq_ofSlots]
  unfold ofTree?
  refine reads_structure i.nodup_names false ?_
  intro room
  simp only [slots, List.map_cons, List.map_nil, readsSlot_text i.title room,
    readsSlot_text i.description room, readsSlot_text i.submitLabel room,
    hsteps room, (reads_bool i.disableOnInvalid).orDefault false room, bind_ite,
    fits_cons_iff, fits_nil_iff, and_true, ite_and]
  rfl

end FormInfo

/-! ## Rules -/

namespace Rules

def slots (rules : Rules) : List MemberSlot :=
  [("entries", some (.record (rules.map fun p => (p.1, p.2.toValue))))]

/-- Rules can be written if their constraints can and no name comes twice. -/
theorem writable_toValue {rules : Rules} (hnames : rules.Distinct)
    (h : ∀ p ∈ rules, p.2.constraint.Writable) : rules.toValue.Writable := by
  refine writable_ofSlots (show (rules.slots.map Prod.fst).Nodup by simp [slots]) ?_
  simp only [slots, List.forall_mem_cons]
  exact ⟨slotWritable_some (writable_map hnames fun p hp =>
    FieldRule.writable_toValue (h p hp)), nofun⟩

/-- So they are read as themselves. -/
theorem reads_toValue {rules : Rules} (hnames : rules.Distinct)
    (h : ∀ p ∈ rules, p.2.constraint.Writable) : Reads ofTree? rules.toValue rules := by
  have hentries := reads_map_self hnames fun p hp => FieldRule.reads_toValue (h p hp)
  unfold ofTree?
  refine reads_structure (show (rules.slots.map Prod.fst).Nodup by simp [slots]) false ?_
  intro room
  simp only [slots, List.map_cons, List.map_nil, hentries.required room, fits_cons_iff,
    fits_nil_iff, and_true]

end Rules

/-! ## Schemas -/

namespace Schema

/-- A text can carry the schema: it can carry the fields, the rules and the information about
the form, and no name stands for two fields or two rules. -/
structure Writable (s : Schema) : Prop where
  names : s.fields.Distinct
  fields : ∀ p ∈ s.fields, p.2.Writable
  ruleNames : s.rules.Distinct
  rules : ∀ p ∈ s.rules, p.2.constraint.Writable
  info : s.info.Writable

/-- The schema without the defaults and the operands that are null. -/
def forgetNulls (s : Schema) : Schema :=
  { s with fields := s.fields.mapValues FormField.forgetNulls }

def slots (s : Schema) : List MemberSlot :=
  [("fields", some (.record (s.fields.map fun p => (p.1, p.2.toValue)))),
    ("validation", some s.rules.toValue), ("meta", some s.info.toValue)]

theorem nodup_names (s : Schema) : (s.slots.map Prod.fst).Nodup := by simp [slots]

/-- What a schema is written as can be carried by a text if the schema can. -/
theorem writable_toValue {s : Schema} (h : s.Writable) : s.toValue.Writable := by
  refine writable_ofSlots s.nodup_names ?_
  simp only [slots, List.forall_mem_cons]
  exact ⟨slotWritable_some (writable_map h.names fun p hp =>
      FormField.writable_toValue (h.fields p hp)),
    slotWritable_some (Rules.writable_toValue h.ruleNames h.rules),
    slotWritable_some (FormInfo.writable_toValue h.info), nofun⟩

/-- What is read of a written schema is the schema without the defaults and the operands
that are null. -/
theorem reads_toValue {s : Schema} (h : s.Writable) : Reads ofTree? s.toValue s.forgetNulls := by
  have hfields := reads_map h.names fun p hp => FormField.reads_toValue (h.fields p hp) false
  have hrules := Rules.reads_toValue h.ruleNames h.rules
  have hinfo := FormInfo.reads_toValue h.info
  unfold ofTree?
  refine reads_structure s.nodup_names false ?_
  intro room
  simp only [slots, List.map_cons, List.map_nil, hfields.required room, hrules.required room,
    hinfo.orDefault {} room, bind_ite, fits_cons_iff, fits_nil_iff, and_true, ite_and]
  rfl

/-- **What is read of the text of a schema.** -/
theorem ofText?_compact {s : Schema} (h : s.Writable) :
    ofText? s.toValue.compact =
      if s.toValue.depth ≤ JsonText.nestingLimit then some s.forgetNulls else none := by
  rw [ofText?, Tree.ofText?_compact (writable_toValue h), Option.bind_some, reads_toValue h]

/-! ## What is the same in the schema that is read -/

/-- No default of the schema and no operand in its conditions is null. -/
def NullFree (s : Schema) : Prop :=
  ∀ p ∈ s.fields, p.2.defaultValue ≠ some .null ∧ ∀ c ∈ p.2.showWhen, c.NullFree

/-- A schema is the same without the defaults and the operands that are null exactly if there
are none. -/
theorem forgetNulls_eq_self_iff {s : Schema} : s.forgetNulls = s ↔ s.NullFree := by
  have hfields : s.forgetNulls = s ↔ ∀ p ∈ s.fields, p.2.forgetNulls = p.2 := by
    unfold forgetNulls Entries.mapValues
    constructor
    · intro h p hp
      have hmap : s.fields.map (fun p => (p.1, p.2.forgetNulls)) = s.fields.map id := by
        rw [List.map_id]
        exact congrArg Schema.fields h
      exact congrArg Prod.snd (List.map_inj_left.mp hmap p hp)
    · intro h
      have hmap : s.fields.map (fun p => (p.1, p.2.forgetNulls)) = s.fields.map id :=
        List.map_inj_left.mpr fun p hp => Prod.ext rfl (h p hp)
      rw [List.map_id] at hmap
      rw [hmap]
  rw [hfields]
  exact forall₂_congr fun p _ => FormField.forgetNulls_eq_self_iff

variable [PatternEngine]

/-- In this snapshot no condition of the schema comes to a rule whose operand is null. -/
def AvoidsNulls (s : Schema) (values : Snapshot) : Prop :=
  ∀ p ∈ s.fields, ∀ c ∈ p.2.showWhen, ∀ r, c.Reaches values (.rule r) → r.value ≠ some .null

section Answers

variable {s : Schema} {values : Snapshot} (h : s.AvoidsNulls values)

include h

/-- A field is shown as before if no operand that is lost is reached. -/
theorem visibility_field_forgetNulls {f : FormField} (hf : f ∈ s.fieldList) :
    f.forgetNulls.visibility values = f.visibility values := by
  obtain ⟨p, hp, rfl⟩ := List.mem_map.mp hf
  unfold FormField.visibility FormField.forgetNulls
  cases hshow : p.2.showWhen with
  | none => rfl
  | some c => simp only [Option.map_some, Condition.explain_forgetNulls (h p hp c hshow)]

/-- The schema that is read shows the same fields, for the same reasons. -/
theorem visibility_forgetNulls : s.forgetNulls.visibility values = s.visibility values := by
  simp only [visibility, forgetNulls, Entries.mapValues, List.map_map]
  refine List.map_inj_left.mpr ?_
  intro p hp
  have hfield := visibility_field_forgetNulls h (List.mem_map_of_mem hp)
  simp only [Function.comp_apply, hfield]

/-- A field is judged as before if no operand that is lost is reached. -/
theorem examine_forgetNulls {f : FormField} (hf : f ∈ s.fieldList) (rules : Rules)
    (view : AsyncView) : f.forgetNulls.examine rules values view = f.examine rules values view := by
  have hshown : f.forgetNulls.isShown values = f.isShown values := by
    rw [← FormField.visibility_isShown, visibility_field_forgetNulls h hf,
      FormField.visibility_isShown]
  unfold FormField.examine
  rw [hshown]
  rfl

/-- The schema that is read reports the same on every step. -/
theorem reportOnStep_forgetNulls (step : Nat) (view : AsyncView) :
    s.forgetNulls.reportOnStep step values view = s.reportOnStep step values view := by
  have hlist : s.forgetNulls.fieldList = s.fieldList.map FormField.forgetNulls := by
    simp [fieldList, forgetNulls, Entries.mapValues, Function.comp_def]
  have hfields : s.forgetNulls.fieldsOfStep step =
      (s.fieldsOfStep step).map FormField.forgetNulls := by
    rw [fieldsOfStep, hlist, List.filter_map]
    rfl
  unfold reportOnStep report
  rw [hfields, List.map_map]
  congr 1
  refine List.map_inj_left.mpr ?_
  intro f hf
  exact Prod.ext rfl (examine_forgetNulls h (List.mem_filter.mp hf).1 s.rules view)

end Answers

end Schema

end Formwork
