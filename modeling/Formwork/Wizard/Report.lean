import Formwork.Async.Ledger
import Formwork.Schema.Basic
import Formwork.Visibility

/-!
# Reports on fields

Fields are examined one by one against a snapshot, and each examination has one
finding.  A field that is hidden or disabled is not checked at all; after that its
rule comes first, and what an outside validator knows only counts for a value that
passes the rule.  A report sorts the names of the fields by what was found; it is
valid if nothing is wrong and nothing is pending.
-/

namespace Formwork

/-- What the examination of one field found. -/
inductive Finding where
  | hidden
  | sound
  | error (message : String)
  | pending
  | unverified
deriving DecidableEq, Repr

namespace Finding

/-- What is found when the rule passes and an outside validator has this to say. -/
def ofStatus (policy : UnverifiedPolicy) : AsyncStatus → Finding
  | .pending => .pending
  | .invalid message => .error message
  | .unverified message => match policy with
    | .block => .error message
    | .allow => .unverified
  | .idle => .sound
  | .valid => .sound

def errorMessage? : Finding → Option String
  | .error message => some message
  | _ => none

end Finding

/-- What outside validators are known to say, and what to do where they cannot decide. -/
structure AsyncView where
  ledger : Ledger := []
  policy : UnverifiedPolicy := .allow

variable [PatternEngine]

/-- Examines one field. -/
def FormField.examine (f : FormField) (rules : Rules) (values : Snapshot) (view : AsyncView) :
    Finding :=
  let value := values.resolve? f.nameText
  if !f.isShown values then .hidden
  else if f.isDisabled then .sound
  else match rules.check f.nameText value with
    | some message => .error message
    | none =>
      if f.validator.isNone then .sound
      else .ofStatus view.policy (view.ledger.statusFor f.nameText (value.getD .null))

/-- What is wrong with a field. -/
structure FieldError where
  field : String
  message : String
deriving DecidableEq, Repr

/-- The error as it is shown. -/
def FieldError.text (e : FieldError) : String := e.field ++ ": " ++ e.message

/-- The result of examining the fields of a step, or of a whole form. -/
structure Report where
  step : Option Nat := none
  errors : List FieldError := []
  pending : List String := []
  unverified : List String := []
  hidden : List String := []
deriving DecidableEq, Repr

namespace Report

/-- Nothing is wrong, and nothing is still being checked. -/
def isValid (r : Report) : Bool := r.errors.isEmpty && r.pending.isEmpty

/-- The message of the first error of a field. -/
def errorFor? (r : Report) (field : String) : Option String :=
  (r.errors.find? fun e => e.field = field).map FieldError.message

/-- The names with a finding. -/
def namesWith (findings : List (String × Finding)) (finding : Finding) : List String :=
  (findings.filter fun p => p.2 = finding).map Prod.fst

/-- Sorts names by what was found, each list in the order of the names. -/
def ofFindings (step : Option Nat) (findings : List (String × Finding)) : Report where
  step
  errors := findings.filterMap fun (name, f) => f.errorMessage?.map fun m => ⟨name, m⟩
  pending := namesWith findings .pending
  unverified := namesWith findings .unverified
  hidden := namesWith findings .hidden

end Report

namespace Schema

variable (s : Schema)

/-- The report on some fields. -/
def report (step : Option Nat) (fields : List FormField) (values : Snapshot) (view : AsyncView) :
    Report :=
  .ofFindings step <| fields.map fun f => (f.nameText, f.examine s.rules values view)

/-- The report on one step. -/
def reportOnStep (step : Nat) (values : Snapshot) (view : AsyncView) : Report :=
  s.report (some step) (s.fieldsOfStep step) values view

/-- The report on all fields. -/
def reportOnForm (values : Snapshot) (view : AsyncView) : Report :=
  s.report none s.fieldList values view

/-- The report on one step that leaves outside validators aside. -/
def validateStep (step : Nat) (values : Snapshot) : Report := s.reportOnStep step values {}

end Schema

end Formwork
