import Formwork.Definition.Json
import Formwork.Schema.Basic

/-!
# Schemas in JSON

A schema is written with all that it holds and read back as it is, without being
checked again.
-/

namespace Formwork

namespace WizardStep

def ofTree? (t : Tree) : Option WizardStep := do
  match ← t.members? ["number", "title", "description"] false with
  | [number, title, description] =>
    return ⟨← Tree.required Tree.nat32? number, ← Tree.required Tree.text? title,
      ← Tree.optional Tree.text? description⟩
  | _ => none

def toValue (w : WizardStep) : Value :=
  .record ([("number", .ofNat w.number), ("title", .text w.title)] ++
    Value.memberIf "description" w.description .text)

end WizardStep

namespace FormInfo

def memberNames : List String :=
  ["title", "description", "submitLabel", "steps", "disableOnInvalid"]

def ofTree? (t : Tree) : Option FormInfo := do
  match ← t.members? memberNames false with
  | [title, description, submitLabel, steps, disableOnInvalid] =>
    return ⟨← Tree.optional Tree.text? title, ← Tree.optional Tree.text? description,
      ← Tree.optional Tree.text? submitLabel,
      ← Tree.orDefault [] (Tree.list? WizardStep.ofTree?) steps,
      ← Tree.orDefault false Tree.bool? disableOnInvalid⟩
  | _ => none

def toValue (i : FormInfo) : Value :=
  .record (Value.memberIf "title" i.title .text ++
    Value.memberIf "description" i.description .text ++
    Value.memberIf "submitLabel" i.submitLabel .text ++
    (if i.steps.isEmpty then [] else [("steps", .list (i.steps.map WizardStep.toValue))]) ++
    [("disableOnInvalid", .bool i.disableOnInvalid)])

/-- Reads the information about a form from a text. -/
def ofText? (s : String) : Option FormInfo := (Tree.ofText? s).bind ofTree?

end FormInfo

namespace Rules

/-- Reads the rules for values. -/
def ofTree? (t : Tree) : Option Rules := do
  match ← t.members? ["entries"] false with
  | [entries] => Tree.required (Tree.mapOf? FieldRule.ofTree?) entries
  | _ => none

def toValue (rules : Rules) : Value :=
  .record [("entries", .record (rules.map fun (name, r) => (name, r.toValue)))]

end Rules

namespace Schema

def ofTree? (t : Tree) : Option Schema := do
  match ← t.members? ["fields", "validation", "meta"] false with
  | [fields, rules, info] =>
    return ⟨← Tree.required (Tree.mapOf? (FormField.ofTree? false)) fields,
      ← Tree.required Rules.ofTree? rules, ← Tree.orDefault {} FormInfo.ofTree? info⟩
  | _ => none

def toValue (s : Schema) : Value :=
  .record [("fields", .record (s.fields.map fun (name, f) => (name, f.toValue))),
    ("validation", s.rules.toValue), ("meta", s.info.toValue)]

/-- Reads a schema from a text. -/
def ofText? (s : String) : Option Schema := (Tree.ofText? s).bind ofTree?

end Schema

/-- Why a text is no snapshot. -/
inductive SnapshotFault where
  | malformed
  | notARecord (found : Value)
deriving DecidableEq, Repr

/-- How a message about a text that cannot be read begins. -/
def unreadableLead : String := "Failed to parse form definition JSON: "

/-- The words for what is wrong with a text that is not JSON of the kind expected. -/
def jsonFaultText : String := "<json error>"

/-- The message about a text that is not JSON of the kind expected. -/
def unreadableMessage : String := unreadableLead ++ jsonFaultText

def SnapshotFault.message : SnapshotFault → String
  | .malformed => unreadableMessage
  | .notARecord found =>
    unreadableLead ++ "form values must be a JSON object, found " ++ found.compact

/-- Reads a snapshot from a text. -/
def Snapshot.ofText (s : String) : Except SnapshotFault Snapshot :=
  match Value.ofText? s with
  | some (.record members) => .ok members
  | some v => .error (.notARecord v)
  | none => .error .malformed

end Formwork
