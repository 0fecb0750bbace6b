import Formwork.Constraint.Address
import Formwork.Constraint.DateTime
import Formwork.Pattern.Engine
import Formwork.Value.Coercion
import Formwork.Value.Path

/-!
# Constraints

A constraint says what a value of a field must be like.  Checking a value either
passes it or finds the first fault; the message is the constraint's own if it has
one, and otherwise words for the fault.  A pattern that is none is told as such
whatever the constraint's own message is.

* `Constraint.fault?` finds what is wrong with a value;
* `Constraint.check` is the message for it;
* `FieldRule.check` also decides what a missing value means.
-/

namespace Formwork

variable [PatternEngine]

/-- The shapes of text that have a name. -/
inductive TextFormat where
  | email
  | url
deriving DecidableEq, Repr

/-- What a value of a field must be like. -/
inductive Constraint where
  | any
  | text (minLength maxLength : Option Nat) (pattern : Option String)
      (format : Option TextFormat) (message : Option String)
  | number (min max : Option Binary64) (integer : Bool) (message : Option String)
  | boolean (mustBeTrue : Bool) (message : Option String)
  | oneOf (values : List Value) (message : Option String)
  | many (minItems maxItems : Option Nat) (oneOf : Option (List Value)) (message : Option String)
  | date (message : Option String)
  | dateTime (message : Option String)
deriving DecidableEq, Repr, Inhabited

/-- What can be wrong with a value. -/
inductive Fault where
  | notText
  | tooShort (least : Nat)
  | tooLong (most : Nat)
  | notFormat (format : TextFormat)
  | invalidPattern (pattern : String)
  | notMatching
  | notNumber
  | notWhole
  | tooSmall (least : Binary64)
  | tooLarge (most : Binary64)
  | notChecked
  | notBoolean
  | notAllowed
  | notList
  | tooFew (least : Nat)
  | tooMany (most : Nat)
  | itemNotAllowed
  | notDate
  | notDateTime
deriving DecidableEq, Repr

/-- The words for a fault. -/
def Fault.message : Fault → String
  | .notText => "Must be text"
  | .tooShort least => s!"Must be at least {least} characters"
  | .tooLong most => s!"Must be at most {most} characters"
  | .notFormat .email => "Must be a valid email address"
  | .notFormat .url => "Must be a valid URL"
  | .invalidPattern pattern => s!"Invalid pattern '{pattern}': {patternFaultText}"
  | .notMatching => "Has an invalid format"
  | .notNumber => "Must be a number"
  | .notWhole => "Must be a whole number"
  | .tooSmall least => "Must be at least " ++ least.plainText
  | .tooLarge most => "Must be at most " ++ most.plainText
  | .notChecked => "Must be checked"
  | .notBoolean => "Must be true or false"
  | .notAllowed => "Is not one of the allowed options"
  | .notList => "Must be a list"
  | .tooFew least => s!"Select at least {least}"
  | .tooMany most => s!"Select at most {most}"
  | .itemNotAllowed => "Contains an option that is not allowed"
  | .notDate => "Must be a date (YYYY-MM-DD)"
  | .notDateTime => "Must be a date and time (YYYY-MM-DDTHH:MM)"

/-- The text has the named shape. -/
def TextFormat.accepts : TextFormat → List Char → Bool
  | .email, s => isEmailText s
  | .url, s => isUrlText s

/-- The first fault found by tests made in order. -/
def firstFault (tests : List (Option Fault)) : Option Fault := tests.findSome? id

/-- A fault if a bound is set and broken. -/
def faultIf {α : Type} (bound : Option α) (broken : α → Bool) (fault : α → Fault) : Option Fault :=
  match bound with
  | some b => if broken b then some (fault b) else none
  | none => none

/-- The value is one of a list of options. -/
def isOption (options : List Value) (v : Value) : Bool := options.any fun o => o.looseEq v

/-- What a pattern finds wrong with a text. -/
def patternFault? (pattern text : String) : Option Fault :=
  match matchPattern? pattern text with
  | none => some (.invalidPattern pattern)
  | some true => none
  | some false => some .notMatching

namespace Constraint

/-- The constraint's own message. -/
def message? : Constraint → Option String
  | .any => none
  | .text _ _ _ _ m => m
  | .number _ _ _ m => m
  | .boolean _ m => m
  | .oneOf _ m => m
  | .many _ _ _ m => m
  | .date m => m
  | .dateTime m => m

/-- The constraint with a message of its own; the one that passes everything has none. -/
def withMessage (m : String) : Constraint → Constraint
  | .any => .any
  | .text lo hi p f _ => .text lo hi p f (some m)
  | .number lo hi i _ => .number lo hi i (some m)
  | .boolean b _ => .boolean b (some m)
  | .oneOf vs _ => .oneOf vs (some m)
  | .many lo hi vs _ => .many lo hi vs (some m)
  | .date _ => .date (some m)
  | .dateTime _ => .dateTime (some m)

/-- The pattern that texts are matched against. -/
def pattern? : Constraint → Option String
  | .text _ _ p _ _ => p
  | _ => none

/-- The numeric view of a value that is not a truth value. -/
def numberOf? : Value → Option Binary64
  | .bool _ => none
  | v => v.number?

/-- What is wrong with a value that is not blank, if anything. -/
def fault? (c : Constraint) (v : Value) : Option Fault :=
  match c, v with
  | .any, _ => none
  | .text lo hi pattern format _, .text s =>
    firstFault [
      faultIf lo (fun n => s.length < n) .tooShort,
      faultIf hi (fun n => n < s.length) .tooLong,
      faultIf format (fun f => !f.accepts s.toList) .notFormat,
      pattern.bind fun p => patternFault? p s]
  | .text .., _ => some .notText
  | .number lo hi integer _, v =>
    match numberOf? v with
    | none => some .notNumber
    | some x =>
      firstFault [
        if integer && !x.isWhole then some .notWhole else none,
        faultIf lo (fun b => x.lt b) .tooSmall,
        faultIf hi (fun b => b.lt x) .tooLarge]
  | .boolean mustBeTrue _, .bool b => if mustBeTrue && !b then some .notChecked else none
  | .boolean .., _ => some .notBoolean
  | .oneOf values _, v => if isOption values v then none else some .notAllowed
  | .many lo hi allowed _, .list items =>
    firstFault [
      faultIf lo (fun n => items.length < n) .tooFew,
      faultIf hi (fun n => n < items.length) .tooMany,
      faultIf allowed (fun os => !items.all (isOption os)) fun _ => .itemNotAllowed]
  | .many .., _ => some .notList
  | .date _, .text s => if isDateText s.toList then none else some .notDate
  | .date _, _ => some .notDate
  | .dateTime _, .text s => if isDateTimeText s.toList then none else some .notDateTime
  | .dateTime _, _ => some .notDateTime

/-- The message for a fault. -/
def messageFor (c : Constraint) : Fault → String
  | .invalidPattern p => (Fault.invalidPattern p).message
  | f => c.message?.getD f.message

/-- The message for what is wrong with a value that is not blank, if anything. -/
def check (c : Constraint) (v : Value) : Option String := (c.fault? v).map c.messageFor

end Constraint

/-- The rule for the values of one field. -/
structure FieldRule where
  constraint : Constraint
  isOptional : Bool
deriving DecidableEq, Repr

/-- What is said about a required field without a value. -/
def requiredMessage : String := "This field is required"

namespace FieldRule

/-- The rule that passes everything. -/
def anything : FieldRule := ⟨.any, true⟩

/-- Missing, null, an empty text or an empty list. -/
def isBlank : Option Value → Bool
  | none => true
  | some (.list items) => items.isEmpty
  | some v => v.isBlank

/-- The message for what is wrong with the value of a field, which may be missing. -/
def check (r : FieldRule) (v : Option Value) : Option String :=
  if isBlank v then if r.isOptional then none else some requiredMessage
  else v.bind r.constraint.check

end FieldRule

end Formwork
