import Formwork.Compilation.Dependency
import Formwork.Compilation.Fault
import Formwork.Compilation.Leaf
import Formwork.Schema.Basic

/-!
# Compilation

A form is compiled in four steps, each of which may find a fault: every place of
the tree must be sound by itself, no two leaves may have one name, the condition
and the pattern of every field must make sense, and no field's visibility may
depend on itself.  What is left is the schema: the leaves in order, and their
rules.
-/

namespace Formwork

variable [PatternEngine]

/-- What is wrong with a place by itself: a step 0, or a field under a blank key. -/
def Place.fault? : Place → Option DefinitionFault
  | .group scope key settings =>
    if settings.step = some 0 then
      some (.invalidStep (dotted (scope.map Prod.fst ++ [key])) 0)
    else none
  | .leaf l =>
    if l.field.step = some 0 then some (.invalidStep l.path 0)
    else if isBlankText l.key then some (.emptyFieldName l.path)
    else none

/-- The first of the named leaves whose name an earlier one has. -/
def firstDuplicate? (naming : Naming) : List Leaf → List Leaf → Option DefinitionFault
  | _, [] => none
  | seen, l :: rest =>
    match seen.find? fun s => s.name naming = l.name naming with
    | some s => some (.duplicateFieldName (l.name naming) s.path l.path)
    | none => firstDuplicate? naming (seen ++ [l]) rest

/-- What is wrong with a rule in the condition of the field `name`. -/
def Rule.fault? (fields : Entries FormField) (allowUnknown : Bool) (name : String) (r : Rule) :
    Option DefinitionFault :=
  match r.op with
  | .unknown tag => some (.malformedCondition name (.unknownOperator tag))
  | op =>
    if op.takesOperand && r.value.isNone then
      some (.malformedCondition name (.missingOperand op r.field))
    else match op, r.value with
      | .matching, some (.text pattern) =>
        if Pattern.isValid pattern then ownerFault? else
          some (.invalidConditionPattern name pattern)
      | _, _ => ownerFault?
where
  /-- The path of the rule belongs to no field. -/
  ownerFault? : Option DefinitionFault :=
    if !allowUnknown && (owner? fields r.field).isNone then
      some (.unknownConditionField r.field name)
    else none

namespace Condition

mutual

/-- What is wrong with the condition of the field `name`. -/
def fault? (fields : Entries FormField) (allowUnknown : Bool) (name : String) :
    Condition → Option DefinitionFault
  | .rule r => r.fault? fields allowUnknown name
  | .all items => faultOf? fields allowUnknown name items
  | .any items => faultOf? fields allowUnknown name items
  | .unset => some (.malformedCondition name .unsetGroup)
  | .conflicting _ _ => some (.malformedCondition name .conflictingGroup)

/-- What is wrong with the first of several conditions that is not sound. -/
def faultOf? (fields : Entries FormField) (allowUnknown : Bool) (name : String) :
    List Condition → Option DefinitionFault
  | [] => none
  | c :: rest =>
    (c.fault? fields allowUnknown name).or (faultOf? fields allowUnknown name rest)

end

end Condition

/-- What is wrong with the pattern or the condition of a field. -/
def FormField.fault? (fields : Entries FormField) (allowUnknown : Bool) (name : String)
    (f : FormField) : Option DefinitionFault :=
  match f.validation.bind Constraint.pattern? with
  | some pattern =>
    if Pattern.isValid pattern then conditionFault? else some (.invalidFieldPattern name pattern)
  | none => conditionFault?
where
  /-- What is wrong with the condition of the field. -/
  conditionFault? : Option DefinitionFault :=
    f.showWhen.bind fun c => c.fault? fields allowUnknown name

namespace Form

variable (form : Form) (options : CompileOptions)

/-- The flat form: the compiled leaves by name. -/
def flatFields : Entries FormField :=
  form.leaves.map fun l => (l.name options.naming, l.compiled options)

/-- The fault of the first place that has one. -/
def placeFault? : Option DefinitionFault := form.places.findSome? Place.fault?

/-- The first fault in the pattern or the condition of a field. -/
def fieldFault? : Option DefinitionFault :=
  let fields := form.flatFields options
  fields.findSome? fun (name, f) => f.fault? fields options.allowUnknownFields name

/-- A cycle among the fields' conditions. -/
def cycleFault? : Option DefinitionFault :=
  (cycle? (form.flatFields options)).map .conditionCycle

/-- What is wrong with a form: the first fault that the steps of compilation find. -/
def fault? : Option DefinitionFault :=
  form.placeFault?.or <| (firstDuplicate? options.naming [] form.leaves).or <|
    (form.fieldFault? options).or (form.cycleFault? options)

/-- Compiles a form. -/
def compile : Except DefinitionFault Schema :=
  match form.fault? options with
  | some e => .error e
  | none =>
    let fields := form.flatFields options
    .ok { fields, rules := fields.map fun (name, f) => (name, f.rule) }

end Form

end Formwork
