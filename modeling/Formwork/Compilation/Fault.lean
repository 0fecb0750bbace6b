import Formwork.Condition.Evaluation

/-!
# What can be wrong with a definition
-/

namespace Formwork

/-- What can be wrong with the shape of a condition. -/
inductive Malformation where
  | conflictingGroup
  | unsetGroup
  | unknownOperator (tag : String)
  | missingOperand (op : Operator) (field : String)
deriving DecidableEq, Repr

def Malformation.message : Malformation → String
  | .conflictingGroup => conflictingGroupMessage
  | .unsetGroup => "a condition group must set 'and' or 'or'"
  | .unknownOperator tag => s!"unknown operator '{tag}'"
  | .missingOperand op field => "operator '" ++ op.tag ++ s!"' on '{field}' needs a value"

/-- What can be wrong with a definition, and where. -/
inductive DefinitionFault where
  | emptyFieldName (path : String)
  | duplicateFieldName (name firstPath secondPath : String)
  | unknownConditionField (field referencedBy : String)
  | invalidConditionPattern (referencedBy pattern : String)
  | invalidFieldPattern (field pattern : String)
  | malformedCondition (referencedBy : String) (why : Malformation)
  | conditionCycle (path : List String)
  | invalidStep (path : String) (step : Nat)
deriving DecidableEq, Repr

def DefinitionFault.message : DefinitionFault → String
  | .emptyFieldName path => s!"Field at '{path}' has an empty name"
  | .duplicateFieldName name firstPath secondPath =>
    s!"Field name '{name}' is defined twice: first at '{firstPath}', again at '{secondPath}'"
  | .unknownConditionField field referencedBy =>
    s!"Condition on '{referencedBy}' references unknown field '{field}'"
  | .invalidConditionPattern referencedBy pattern =>
    s!"Condition on '{referencedBy}' has an invalid pattern '{pattern}': {patternFaultText}"
  | .invalidFieldPattern field pattern =>
    s!"Field '{field}' has an invalid validation pattern '{pattern}': {patternFaultText}"
  | .malformedCondition referencedBy why =>
    s!"Condition on '{referencedBy}' is malformed: " ++ why.message
  | .conditionCycle path => "Visibility conditions form a cycle: " ++ " -> ".intercalate path
  | .invalidStep path step => s!"Node at '{path}' declares step {step}, steps start at 1"

end Formwork
