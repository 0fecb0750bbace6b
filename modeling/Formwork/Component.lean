import Formwork.Definition.Field

/-!
# Components

A layer that draws a form asks here which component draws a field.  The look-up
is total: a kind that nobody has registered is drawn as a line of text, and a
field that names its component gets that component whatever its kind.
-/

namespace Formwork

/-- The shape of the values that a component produces. -/
inductive ValueShape where
  | text
  | number
  | boolean
  | choice
  | choices
  | temporal
  | file
  | list
  | object
  | media
deriving DecidableEq, Repr

namespace ValueShape

def tag : ValueShape → String
  | .text => "text"
  | .number => "number"
  | .boolean => "boolean"
  | .choice => "choice"
  | .choices => "choices"
  | .temporal => "temporal"
  | .file => "file"
  | .list => "list"
  | .object => "object"
  | .media => "media"

def all : List ValueShape :=
  [.text, .number, .boolean, .choice, .choices, .temporal, .file, .list, .object, .media]

/-- The shape with a tag. -/
def ofTag? (tag : String) : Option ValueShape := all.find? fun s => s.tag = tag

end ValueShape

/-- What a drawing layer needs to know to draw a field. -/
structure Component where
  id : String
  shape : ValueShape
  supportsOptions : Bool := false
  isMultiline : Bool := false
deriving DecidableEq, Repr

namespace Component

/-- A line of text. -/
def textInput : Component := ⟨"text-input", .text, false, false⟩

def toValue (c : Component) : Value :=
  .record [("component", .text c.id), ("value_shape", .text c.shape.tag),
    ("supports_options", .bool c.supportsOptions), ("multiline", .bool c.isMultiline)]

/-- The component of every kind that is known. -/
def ofKind? : FieldKind → Option Component
  | .text => some textInput
  | .textarea => some ⟨"textarea", .text, false, true⟩
  | .email => some ⟨"email-input", .text, false, false⟩
  | .password => some ⟨"password-input", .text, false, false⟩
  | .number => some ⟨"number-input", .number, false, false⟩
  | .select => some ⟨"select", .choice, true, false⟩
  | .multiSelect => some ⟨"multi-select", .choices, true, false⟩
  | .checkbox => some ⟨"checkbox", .boolean, false, false⟩
  | .switch => some ⟨"switch", .boolean, false, false⟩
  | .radio => some ⟨"radio-group", .choice, true, false⟩
  | .date => some ⟨"date-picker", .temporal, false, false⟩
  | .time => some ⟨"time-picker", .temporal, false, false⟩
  | .dateTime => some ⟨"datetime-picker", .temporal, false, false⟩
  | .file => some ⟨"file-upload", .file, false, false⟩
  | .array => some ⟨"array-editor", .list, false, false⟩
  | .address => some ⟨"address-input", .object, false, false⟩
  | .map => some ⟨"map-picker", .object, false, false⟩
  | .voice => some ⟨"voice-recorder", .media, false, false⟩
  | .richText => some ⟨"rich-text-editor", .text, false, true⟩
  | .custom => some ⟨"custom", .object, false, false⟩
  | .other _ => none

end Component

/-- The components registered for kinds, on top of those of the known kinds; of two
for one kind the later counts. -/
structure ComponentRegistry where
  added : List (FieldKind × Component) := []

namespace ComponentRegistry

/-- The component registered for a kind. -/
def find? (r : ComponentRegistry) (kind : FieldKind) : Option Component :=
  match r.added.find? fun p => p.1 = kind with
  | some p => some p.2
  | none => Component.ofKind? kind

def contains (r : ComponentRegistry) (kind : FieldKind) : Bool := (r.find? kind).isSome

def register (r : ComponentRegistry) (kind : FieldKind) (c : Component) : ComponentRegistry :=
  ⟨(kind, c) :: r.added⟩

/-- The component for a kind, a line of text if none is registered. -/
def resolve (r : ComponentRegistry) (kind : FieldKind) : Component :=
  (r.find? kind).getD Component.textInput

/-- The component for a field: the one that the field names draws the shape of its kind. -/
def resolveField (r : ComponentRegistry) (f : FormField) : Component :=
  let base := r.resolve f.kind
  match f.component with
  | some id => { base with id }
  | none => base

end ComponentRegistry

end Formwork
