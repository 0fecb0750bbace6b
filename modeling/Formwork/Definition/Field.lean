import Formwork.Condition.Basic
import Formwork.Constraint.Basic

/-!
# Fields

A field is a leaf of a form: the kind of control, how it is labelled, what its
values must be like, when it is shown, and on which step of a wizard.  The name
of a field comes from the key it is stored under, so a definition can be used
again under another key.
-/

namespace Formwork

/-- The kind of a control.  A tag that is not known is kept as it is. -/
inductive FieldKind where
  | text
  | textarea
  | email
  | password
  | number
  | select
  | multiSelect
  | checkbox
  | switch
  | radio
  | date
  | time
  | dateTime
  | file
  | array
  | address
  | map
  | voice
  | richText
  | custom
  | other (tag : String)
deriving DecidableEq, Repr, Inhabited

namespace FieldKind

/-- The tag of a kind in a definition. -/
def tag : FieldKind → String
  | .text => "text"
  | .textarea => "textarea"
  | .email => "email"
  | .password => "password"
  | .number => "number"
  | .select => "select"
  | .multiSelect => "multiselect"
  | .checkbox => "checkbox"
  | .switch => "switch"
  | .radio => "radio"
  | .date => "date"
  | .time => "time"
  | .dateTime => "datetime"
  | .file => "file"
  | .array => "array"
  | .address => "address"
  | .map => "map"
  | .voice => "voice"
  | .richText => "richtext"
  | .custom => "custom"
  | .other tag => tag

/-- The kinds that are known, in the order in which they are declared. -/
def known : List FieldKind :=
  [.text, .textarea, .email, .password, .number, .select, .multiSelect, .checkbox, .switch,
    .radio, .date, .time, .dateTime, .file, .array, .address, .map, .voice, .richText, .custom]

/-- The kind with a tag. -/
def ofTag (tag : String) : FieldKind :=
  (known.find? fun k => k.tag = tag).getD (.other tag)

end FieldKind

/-- One choice of a control that offers several. -/
structure Choice where
  label : String
  value : Value
  isDisabled : Bool := false
deriving DecidableEq, Repr

/-- Stands for a validator outside the form, for instance one that asks a server.
Two fields have the same validator only if they have the same reference. -/
structure ValidatorRef where
  id : Nat
deriving DecidableEq, Repr

/-- A leaf of a form. -/
structure FormField where
  kind : FieldKind
  name : Option String := none
  label : Option String := none
  placeholder : Option String := none
  description : Option String := none
  isRequired : Bool := false
  isDisabled : Bool := false
  defaultValue : Option Value := none
  validation : Option Constraint := none
  validator : Option ValidatorRef := none
  debounceMs : Option Nat := none
  showWhen : Option Condition := none
  step : Option Nat := none
  options : List Choice := []
  component : Option String := none
  props : Entries Value := []
deriving DecidableEq, Repr, Inhabited

namespace FormField

/-- The compiled name, empty before compilation. -/
def nameText (f : FormField) : String := f.name.getD ""

/-- The step of a wizard on which the field is; the first one if none is given. -/
def effectiveStep (f : FormField) : Nat := f.step.getD 1

/-- The rule for the values of the field: optional unless the field is required. -/
def rule (f : FormField) : FieldRule := ⟨f.validation.getD .any, !f.isRequired⟩

end FormField

end Formwork
