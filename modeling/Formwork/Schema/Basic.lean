import Formwork.Definition.Field

/-!
# Compiled schemas

A schema is a form made flat: its fields by name, in order, with the rule for the
values of each, and information about the form as a whole.

* `Schema.steps` and `Schema.totalSteps` are the steps of the wizard;
* `Schema.defaults` and `Schema.retain` are the snapshots a form starts from.
-/

namespace Formwork

/-- What is said about one step of a wizard. -/
structure WizardStep where
  number : Nat
  title : String
  description : Option String := none
deriving DecidableEq, Repr

/-- What is said about a form as a whole. -/
structure FormInfo where
  title : Option String := none
  description : Option String := none
  submitLabel : Option String := none
  steps : List WizardStep := []
  disableOnInvalid : Bool := false
deriving DecidableEq, Repr, Inhabited

/-- The rules for values, by the name of the field. -/
abbrev Rules := Entries FieldRule

/-- A flat form. -/
structure Schema where
  fields : Entries FormField
  rules : Rules
  info : FormInfo := {}
deriving DecidableEq, Repr, Inhabited

variable [PatternEngine]

namespace Rules

/-- The message for what is wrong with the value of a field; a name without a
rule accepts anything. -/
def check (rules : Rules) (name : String) (v : Option Value) : Option String :=
  (rules.get? name).bind fun r => r.check v

/-- The names and messages of all fields whose values in a snapshot break their rules. -/
def checkAll (rules : Rules) (values : Snapshot) : List (String × String) :=
  rules.keys.filterMap fun name =>
    (rules.check name (values.resolve? name)).map fun message => (name, message)

end Rules

namespace Schema

variable (s : Schema)

/-- The fields in order. -/
def fieldList : List FormField := s.fields.map Prod.snd

/-- The numbers of the steps that have fields, ascending. -/
def steps : List Nat :=
  ((s.fieldList.map FormField.effectiveStep).eraseDups).mergeSort fun a b => a ≤ b

/-- The greatest step that the form or a field mentions, and at least 1. -/
def totalSteps : Nat :=
  (s.info.steps.map WizardStep.number ++ s.fieldList.map FormField.effectiveStep).foldl max 1

/-- The fields of one step, in order. -/
def fieldsOfStep (step : Nat) : List FormField :=
  s.fieldList.filter fun f => f.effectiveStep = step

/-- What is said about a step; a step that nothing is said about is called by its number. -/
def stepInfo (step : Nat) : WizardStep :=
  (s.info.steps.find? fun w => w.number = step).getD ⟨step, s!"Step {step}", none⟩

/-- The default value of every field that has one. -/
def defaults : Snapshot :=
  Entries.ofPairs <| s.fields.filterMap fun (name, f) => f.defaultValue.map fun v => (name, v)

/-- What every field reads in a snapshot, by the name of the field. -/
def retain (values : Snapshot) : Snapshot :=
  Entries.ofPairs <| s.fields.keys.filterMap fun name =>
    (values.resolve? name).map fun v => (name, v)

/-- The schema with a validator set on some of its fields. -/
def withValidators (refs : Entries ValidatorRef) : Schema :=
  { s with fields := s.fields.map fun (name, f) =>
      (name, match refs.get? name with
        | some r => { f with validator := some r }
        | none => f) }

end Schema

end Formwork
