import Formwork.Definition.Json
import Formwork.Proofs.Condition.Written
import Formwork.Proofs.Constraint.Written

/-!
# Fields that are written and read back

A field is written with the members that are set.  A default value that is null is written
as such and read as one that is missing, and so are the operands in its condition; the rest
of a field is read back as it was.

* `FormField.Writable` — the fields that a text can carry;
* `FormField.forgetNulls` — a field without the default and the operands that are null;
* `FormField.reads_toValue` — this is what is read where a field was written.
-/

namespace Formwork

open Formwork.Tree Value

/-! ## Choices -/

namespace Choice

def slots (c : Choice) : List MemberSlot :=
  [("label", some (.text c.label)), ("value", some c.value),
    ("disabled", if c.isDisabled then some (.bool true) else none)]

/-- A choice is written as its slots say. -/
theorem toValue_eq_ofSlots (c : Choice) : c.toValue = .record (ofSlots c.slots) := by
  unfold toValue slots
  cases c.isDisabled <;> rfl

theorem nodup_names (c : Choice) : (c.slots.map Prod.fst).Nodup := by simp [slots]

/-- A choice can be written if its value can. -/
theorem writable_toValue {c : Choice} (h : c.value.Writable) : c.toValue.Writable := by
  rw [toValue_eq_ofSlots]
  refine writable_ofSlots c.nodup_names ?_
  simp only [slots, List.forall_mem_cons]
  refine ⟨slotWritable_some (.text c.label), slotWritable_some h, ?_, nofun⟩
  split
  · exact slotWritable_some (.bool true)
  · exact slotWritable_none

/-- So a choice is read as itself. -/
theorem reads_toValue {c : Choice} (h : c.value.Writable) : Reads ofTree? c.toValue c := by
  have hdisabled : ReadsSlot (Tree.orDefault false bool?)
      (if c.isDisabled then some (.bool true) else none) c.isDisabled := by
    cases c.isDisabled with
    | false => exact readsSlot_orDefault_none false bool?
    | true => exact (reads_bool true).orDefault false
  rw [toValue_eq_ofSlots]
  unfold ofTree?
  refine reads_structure c.nodup_names false ?_
  intro room
  simp only [slots, List.map_cons, List.map_nil, (reads_text c.label).required room,
    (reads_value h).required room, hdisabled room, bind_ite, fits_cons_iff, fits_nil_iff,
    and_true, ite_and]
  rfl

end Choice

/-! ## Fields -/

namespace FormField

/-- A text can carry the field: its kind is known by its tag, its numbers have the size that
the format gives them, and its values, its constraint and its condition can be carried. -/
structure Writable (f : FormField) : Prop where
  kind : FieldKind.ofTag f.kind.tag = f.kind
  defaultValue : SlotWritable f.defaultValue
  validation : ∀ c ∈ f.validation, c.Writable
  validator : f.validator = none
  debounceMs : ∀ n ∈ f.debounceMs, n < Nat.pow 2 64
  showWhen : ∀ c ∈ f.showWhen, c.Writable
  step : ∀ n ∈ f.step, n < Nat.pow 2 32
  options : ∀ c ∈ f.options, c.value.Writable
  props : (record f.props).Writable

/-- A field of which nothing is said but its kind. -/
theorem writable_of_kind {kind : FieldKind} (h : FieldKind.ofTag kind.tag = kind) :
    Writable { kind } where
  kind := h
  defaultValue := slotWritable_none
  validation := nofun
  validator := rfl
  debounceMs := nofun
  showWhen := nofun
  step := nofun
  options := nofun
  props := .record List.nodup_nil nofun

/-- The field without the default and the operands that are null. -/
def forgetNulls (f : FormField) : FormField :=
  { f with
    defaultValue := unlessNull f.defaultValue
    showWhen := f.showWhen.map Condition.forgetNulls }

def slots (f : FormField) : List MemberSlot :=
  [("type", some (.text f.kind.tag)), ("name", f.name.map .text), ("label", f.label.map .text),
    ("placeholder", f.placeholder.map .text), ("description", f.description.map .text),
    ("required", some (.bool f.isRequired)), ("disabled", some (.bool f.isDisabled)),
    ("defaultValue", f.defaultValue), ("validation", f.validation.map Constraint.toValue),
    ("debounceMs", f.debounceMs.map .ofNat), ("showWhen", f.showWhen.map Condition.toValue),
    ("step", f.step.map .ofNat),
    ("options", if f.options.isEmpty then none else some (.list (f.options.map Choice.toValue))),
    ("component", f.component.map .text),
    ("componentProps", if f.props.isEmpty then none else some (.record f.props))]

/-- A field is written as its slots say. -/
theorem toMembers_eq_ofSlots (f : FormField) : f.toMembers = ofSlots f.slots := by
  unfold toMembers slots
  cases f.defaultValue <;> cases f.options.isEmpty <;> cases f.props.isEmpty <;>
    simp [ofSlots_cons_map, memberIf]

theorem nodup_names (f : FormField) : (f.slots.map Prod.fst).Nodup := by simp [slots]

/-- Each slot of a field can be written if the field can. -/
theorem slotWritable_slots {f : FormField} (h : f.Writable) :
    ∀ s ∈ f.slots, SlotWritable s.2 := by
  have hprops : SlotWritable (if f.props.isEmpty then none else some (.record f.props)) := by
    split
    · exact slotWritable_none
    · exact slotWritable_some h.props
  have hdebounce : SlotWritable (f.debounceMs.map .ofNat) :=
    slotWritable_map fun n hn => writable_ofNat (h.debounceMs n hn)
  have hstep : SlotWritable (f.step.map .ofNat) :=
    slotWritable_map fun n hn => writable_ofNat (Nat.lt_trans (h.step n hn) (by decide))
  simp only [slots, List.forall_mem_cons]
  exact ⟨slotWritable_some (.text f.kind.tag), slotWritable_text f.name,
    slotWritable_text f.label, slotWritable_text f.placeholder,
    slotWritable_text f.description, slotWritable_some (.bool f.isRequired),
    slotWritable_some (.bool f.isDisabled), h.defaultValue,
    slotWritable_map fun c hc => Constraint.writable_toValue (h.validation c hc), hdebounce,
    slotWritable_map fun c hc => Condition.writable_toValue (h.showWhen c hc), hstep,
    slotWritable_list fun c hc => Choice.writable_toValue (h.options c hc),
    slotWritable_text f.component, hprops, nofun⟩

/-- What a field is written as can be carried by a text if the field can. -/
theorem writable_toValue {f : FormField} (h : f.Writable) : f.toValue.Writable := by
  rw [toValue, toMembers_eq_ofSlots]
  exact writable_ofSlots f.nodup_names (slotWritable_slots h)

/-- Further properties are left out where there are none, and read as none then. -/
theorem reads_props {props : Entries Value} (h : (Value.record props).Writable) :
    ReadsSlot (Tree.orDefault [] valueMap?)
      (if props.isEmpty then none else some (.record props)) props := by
  cases props with
  | nil => exact readsSlot_orDefault_none [] _
  | cons p rest =>
      cases h with
      | record hkeys hmembers => exact (reads_valueMap hkeys hmembers).orDefault []

/-- **What is read of a written field.**  It is the field without the default and the
operands that are null. -/
theorem reads_toValue {f : FormField} (h : f.Writable) (nested : Bool) :
    Reads (ofTree? nested) f.toValue f.forgetNulls := by
  have hvalidation : ReadsSlot (Tree.optional (Constraint.ofTree? nested))
      (f.validation.map Constraint.toValue) f.validation :=
    readsSlot_optional (fun c hc => Constraint.reads_toValue (h.validation c hc) nested)
      Constraint.toValue_ne_null
  have hdebounce : ReadsSlot (Tree.optional nat64?) (f.debounceMs.map .ofNat) f.debounceMs :=
    readsSlot_optional (fun n hn => reads_nat64 (h.debounceMs n hn)) nofun
  have hshow := readsSlot_optional_map (fun c hc => Condition.reads_toValue (h.showWhen c hc))
    Condition.toValue_ne_null
  have hstep : ReadsSlot (Tree.optional nat32?) (f.step.map .ofNat) f.step :=
    readsSlot_optional (fun n hn => reads_nat32 (h.step n hn)) nofun
  have hoptions := readsSlot_list fun c hc => Choice.reads_toValue (h.options c hc)
  rw [toValue, toMembers_eq_ofSlots]
  unfold ofTree?
  refine reads_structure f.nodup_names false ?_
  intro room
  simp only [slots, List.map_cons, List.map_nil, (reads_text f.kind.tag).required room,
    readsSlot_text f.name room, readsSlot_text f.label room, readsSlot_text f.placeholder room,
    readsSlot_text f.description room, (reads_bool f.isRequired).orDefault false room,
    (reads_bool f.isDisabled).orDefault false room, readsSlot_optional_value h.defaultValue room,
    hvalidation room, hdebounce room, hshow room, hstep room, hoptions room,
    readsSlot_text f.component room, reads_props h.props room, bind_ite, h.kind,
    forgetNulls, h.validator, fits_cons_iff, fits_nil_iff, and_true, ite_and]
  rfl

/-- A field is the same without the default and the operands that are null exactly if there
are none. -/
theorem forgetNulls_eq_self_iff {f : FormField} : f.forgetNulls = f ↔
    f.defaultValue ≠ some .null ∧ ∀ c ∈ f.showWhen, c.NullFree := by
  have hshow : f.showWhen.map Condition.forgetNulls = f.showWhen ↔
      ∀ c ∈ f.showWhen, c.NullFree := by
    cases f.showWhen with
    | none => simp
    | some c => simp [Condition.forgetNulls_eq_self_iff]
  rw [← hshow, ← unlessNull_eq_self_iff]
  constructor
  · intro h
    exact ⟨congrArg FormField.defaultValue h, congrArg FormField.showWhen h⟩
  · intro h
    unfold forgetNulls
    rw [h.1, h.2]

end FormField

end Formwork
