import Formwork.Definition.Form

/-!
# The catalogue of fields

A field of each kind as it is usually wanted: with the constraint that belongs to
the kind, and limits where none are given.  A choice among options accepts these
options only; without options it is not constrained.  What an upload accepts is
told to its control and not checked here.
-/

namespace Formwork

/-- What may be said about a field for text. -/
structure TextSettings where
  minLength : Option Nat := none
  maxLength : Option Nat := none
  pattern : Option String := none
  message : Option String := none

/-- What may be said about a field for a number. -/
structure NumberSettings where
  min : Option Binary64 := none
  max : Option Binary64 := none
  integer : Bool := false
  message : Option String := none

/-- What may be said about a field that offers choices; the numbers of items count
only where several may be chosen. -/
structure ChoiceSettings where
  options : List Choice := []
  minItems : Option Nat := none
  maxItems : Option Nat := none

/-- What may be said about a field for a file. -/
structure FileSettings where
  accept : List String := []
  maxSizeBytes : Option Nat := none
  multiple : Bool := false

namespace FormField

/-- A text of this length fits a line. -/
def lineLength : Nat := 255

/-- A text of this length fits a page. -/
def pageLength : Nat := 5000

/-- A password is at least this long. -/
def passwordLength : Nat := 8

/-- A field for text, with limits for its length where the settings give none. -/
def textual (kind : FieldKind) (least most : Nat) (format : Option TextFormat)
    (s : TextSettings) : FormField :=
  { kind, validation := some <|
      .text (s.minLength.getD least) (s.maxLength.getD most) s.pattern format s.message }

def text (s : TextSettings) : FormField := textual .text 0 lineLength none s

def textarea (s : TextSettings) : FormField := textual .textarea 0 pageLength none s

def richText (s : TextSettings) : FormField := textual .richText 0 pageLength none s

def email (s : TextSettings) : FormField := textual .email 0 lineLength (some .email) s

def password (s : TextSettings) : FormField := textual .password passwordLength lineLength none s

def number (s : NumberSettings) : FormField :=
  { kind := .number, validation := some (.number s.min s.max s.integer s.message) }

/-- The values of options; none if there are no options. -/
def allowedValues (options : List Choice) : Option (List Value) :=
  if options.isEmpty then none else some (options.map Choice.value)

/-- A field of which one option is chosen. -/
def singleChoice (kind : FieldKind) (s : ChoiceSettings) : FormField :=
  { kind, options := s.options,
    validation := (allowedValues s.options).map fun values => .oneOf values none }

def select (s : ChoiceSettings) : FormField := singleChoice .select s

def radio (s : ChoiceSettings) : FormField := singleChoice .radio s

def multiSelect (s : ChoiceSettings) : FormField :=
  { kind := .multiSelect, options := s.options,
    validation := some (.many s.minItems s.maxItems (allowedValues s.options) none) }

def checkbox (mustBeTrue : Bool) : FormField :=
  { kind := .checkbox, validation := some (.boolean mustBeTrue none) }

def switch (mustBeTrue : Bool) : FormField :=
  { kind := .switch, validation := some (.boolean mustBeTrue none) }

def date : FormField := { kind := .date, validation := some (.date none) }

def dateTime : FormField := { kind := .dateTime, validation := some (.dateTime none) }

/-- Hours and minutes, and perhaps seconds. -/
def timePattern : String := "^([01]\\d|2[0-3]):[0-5]\\d(:[0-5]\\d)?$"

def time : FormField :=
  { kind := .time,
    validation := some (.text none none timePattern none (some "Must be a time (HH:MM)")) }

def file (s : FileSettings) : FormField :=
  { kind := .file,
    props :=
      (if s.accept.isEmpty then [] else [("accept", Value.texts s.accept)]) ++
      (match s.maxSizeBytes with
        | some n => [("maxSize", Value.ofNat n)]
        | none => []) ++
      (if s.multiple then [("multiple", Value.bool true)] else []) }

def array (minItems maxItems : Option Nat) : FormField :=
  { kind := .array, validation := some (.many minItems maxItems none none) }

def address : FormField := { kind := .address }

def map : FormField := { kind := .map }

def voice : FormField := { kind := .voice }

/-- A field drawn by a control of the application's own. -/
def custom (component : String) : FormField := { kind := .custom, component := some component }

/-- The field with one more word to its control. -/
def withProp (key : String) (value : Value) (f : FormField) : FormField :=
  { f with props := f.props.put key value }

end FormField

end Formwork
