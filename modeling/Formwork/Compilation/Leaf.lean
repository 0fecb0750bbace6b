import Formwork.Definition.Form
import Formwork.Text.Blank

/-!
# The leaves of a form

A form is a tree; read in pre-order it is a list of places, each a group or a
field together with the groups around it.  A field inherits from those groups:
its compiled name may be made of their keys, the nearest step applies when it has
none of its own, and their conditions come before its own.

* `Form.places` is the pre-order list, `Form.leaves` the fields in it;
* `Place.fault?` is what can be wrong with a place by itself;
* `Leaf.compiled` is the field as it stands in the flat form.
-/

namespace Formwork

/-- How the name of a compiled field is made. -/
inductive Naming where
  | flat
  | dotted
deriving DecidableEq, Repr

/-- The settings of compilation. -/
structure CompileOptions where
  naming : Naming := .flat
  allowUnknownFields : Bool := false
  inheritStep : Bool := true
deriving DecidableEq, Repr

/-- The groups around a place, the outermost first. -/
abbrev Scope := List (String × GroupSettings)

/-- A field and where it stands. -/
structure Leaf where
  scope : Scope
  key : String
  field : FormField
deriving DecidableEq, Repr

/-- A node and where it stands. -/
inductive Place where
  | leaf (l : Leaf)
  | group (scope : Scope) (key : String) (settings : GroupSettings)
deriving DecidableEq, Repr

/-- Keys joined by dots. -/
def dotted (keys : List String) : String := ".".intercalate keys

namespace Form

mutual

/-- The places of a node, in pre-order. -/
def placesOfNode (scope : Scope) (key : String) : FormNode → List Place
  | .field f => [.leaf ⟨scope, key, f⟩]
  | .group settings nodes =>
    .group scope key settings :: placesOfNodes (scope ++ [(key, settings)]) nodes

/-- The places of nodes, in pre-order. -/
def placesOfNodes (scope : Scope) : List (String × FormNode) → List Place
  | [] => []
  | (key, n) :: rest => placesOfNode scope key n ++ placesOfNodes scope rest

end

/-- The places of a form, in pre-order. -/
def places (form : Form) : List Place := placesOfNodes [] form

end Form

/-- The field at a place that is not a group. -/
def Place.leaf? : Place → Option Leaf
  | .leaf l => some l
  | .group .. => none

/-- The fields of a form with the groups around them, in pre-order. -/
def Form.leaves (form : Form) : List Leaf := form.places.filterMap Place.leaf?

namespace Leaf

variable (l : Leaf)

/-- The keys from the top of the form down to the field. -/
def path : String := dotted (l.scope.map Prod.fst ++ [l.key])

/-- The name of the compiled field. -/
def name : Naming → String
  | .flat => l.key
  | .dotted => l.path

/-- The step of the nearest group around that has one. -/
def inheritedStep : Option Nat := l.scope.reverse.findSome? fun g => g.2.step

/-- The conditions of the groups around, the outermost first, and the field's own. -/
def conditions : List Condition :=
  l.scope.filterMap (fun g => g.2.showWhen) ++ l.field.showWhen.toList

/-- Conditions of which all are to hold, as one. -/
def combined : List Condition → Option Condition
  | [] => none
  | [c] => some c
  | cs => some (.all cs)

/-- The field as it stands in the flat form. -/
def compiled (options : CompileOptions) : FormField :=
  { l.field with
    name := some (l.name options.naming)
    step := if options.inheritStep then l.field.step.or l.inheritedStep else l.field.step
    showWhen := combined l.conditions }

end Leaf

end Formwork
