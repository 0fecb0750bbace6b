import Formwork.Condition.Explanation
import Formwork.Schema.Basic

/-!
# Which fields are shown

Every field of a schema gets a verdict on a snapshot: whether it is shown, and why.
There is a reason where a condition decided; a field without a condition, and one
whose condition faults, is shown without one.
-/

namespace Formwork

variable [PatternEngine]

/-- Whether a field is shown, and why if a condition says so. -/
structure Visibility where
  isShown : Bool
  reason : Option String
deriving DecidableEq, Repr

namespace FormField

/-- The verdict on one field. -/
def visibility (f : FormField) (values : Snapshot) : Visibility :=
  match f.showWhen with
  | none => ⟨true, none⟩
  | some c => match c.explain values with
    | .ok t => ⟨t.outcome, some t.text⟩
    | .error _ => ⟨true, none⟩

/-- Whether one field is shown. -/
def isShown (f : FormField) (values : Snapshot) : Bool := isVisible f.showWhen values

/-- The verdict shows a field exactly if its condition does. -/
theorem visibility_isShown (f : FormField) (values : Snapshot) :
    (f.visibility values).isShown = f.isShown values := by
  unfold visibility isShown isVisible Condition.evaluate
  cases f.showWhen with
  | none => rfl
  | some c => cases h : c.explain values <;> simp [h]

end FormField

/-- The verdicts on all fields of a schema, in order. -/
def Schema.visibility (s : Schema) (values : Snapshot) : Entries Visibility :=
  s.fields.mapValues fun f => f.visibility values

end Formwork
