import Formwork.Condition.Json
import Formwork.Constraint.Json
import Formwork.Definition.Form
import Formwork.Json.Reader

/-!
# Definitions in JSON

A form is a record of nodes, each tagged by its kind.  Members that a field or a
group does not know are passed over; members that are not set are left out when a
definition is written.

* `Form.ofTree?` and `Form.toValue` read and write a form;
* `FormField.ofTree?` and `FormField.toValue` read and write a field by itself.
-/

namespace Formwork

namespace Choice

def ofTree? (t : Tree) : Option Choice := do
  match ← t.members? ["label", "value", "disabled"] false with
  | [label, value, disabled] =>
    return ⟨← Tree.required Tree.text? label, ← Tree.required Tree.value? value,
      ← Tree.orDefault false Tree.bool? disabled⟩
  | _ => none

def toValue (c : Choice) : Value :=
  .record ([("label", .text c.label), ("value", c.value)] ++
    if c.isDisabled then [("disabled", .bool true)] else [])

end Choice

namespace FormField

/-- The members of a field in the order in which they are declared. -/
def memberNames : List String :=
  ["type", "name", "label", "placeholder", "description", "required", "disabled", "defaultValue",
    "validation", "debounceMs", "showWhen", "step", "options", "component", "componentProps"]

/-- Reads a field; `nested` tells that it stands inside something read already. -/
def ofTree? (nested : Bool) (t : Tree) : Option FormField := do
  match ← t.members? memberNames false with
  | [kind, name, label, placeholder, description, isRequired, isDisabled, defaultValue, validation,
      debounceMs, showWhen, step, options, component, props] =>
    let kind ← Tree.required Tree.text? kind
    let name ← Tree.optional Tree.text? name
    let label ← Tree.optional Tree.text? label
    let placeholder ← Tree.optional Tree.text? placeholder
    let description ← Tree.optional Tree.text? description
    let isRequired ← Tree.orDefault false Tree.bool? isRequired
    let isDisabled ← Tree.orDefault false Tree.bool? isDisabled
    let defaultValue ← Tree.optional Tree.value? defaultValue
    let validation ← Tree.optional (Constraint.ofTree? nested) validation
    let debounceMs ← Tree.optional Tree.nat64? debounceMs
    let showWhen ← Tree.optional Condition.ofTree? showWhen
    let step ← Tree.optional Tree.nat32? step
    let options ← Tree.orDefault [] (Tree.list? Choice.ofTree?) options
    let component ← Tree.optional Tree.text? component
    let props ← Tree.orDefault [] Tree.valueMap? props
    return { kind := FieldKind.ofTag kind, name, label, placeholder, description, isRequired,
             isDisabled, defaultValue, validation, debounceMs, showWhen, step, options, component,
             props }
  | _ => none

/-- The members of a field as they are written. -/
def toMembers (f : FormField) : List (String × Value) :=
  [("type", .text f.kind.tag)] ++
  Value.memberIf "name" f.name .text ++
  Value.memberIf "label" f.label .text ++
  Value.memberIf "placeholder" f.placeholder .text ++
  Value.memberIf "description" f.description .text ++
  [("required", .bool f.isRequired), ("disabled", .bool f.isDisabled)] ++
  Value.memberIf "defaultValue" f.defaultValue id ++
  Value.memberIf "validation" f.validation Constraint.toValue ++
  Value.memberIf "debounceMs" f.debounceMs .ofNat ++
  Value.memberIf "showWhen" f.showWhen Condition.toValue ++
  Value.memberIf "step" f.step .ofNat ++
  (if f.options.isEmpty then [] else [("options", .list (f.options.map Choice.toValue))]) ++
  Value.memberIf "component" f.component .text ++
  (if f.props.isEmpty then [] else [("componentProps", .record f.props)])

def toValue (f : FormField) : Value := .record f.toMembers

end FormField

namespace Layout

/-- The number of columns of a grid, as a structure. -/
def columnsOf? (t : Tree) : Option Layout := do
  match ← t.members? ["columns"] false with
  | [columns] => return .grid (← Tree.required Tree.nat32? columns)
  | _ => none

def ofTree? (t : Tree) : Option Layout :=
  match t with
  | .record [("grid", body)] => columnsOf? body
  | t => match t.name? with
    | some "vertical" => some .vertical
    | some "horizontal" => some .horizontal
    | some "inline" => some .inline
    | _ => none

def toValue : Layout → Value
  | .vertical => .text "vertical"
  | .horizontal => .text "horizontal"
  | .inline => .text "inline"
  | .grid columns => .record [("grid", .record [("columns", .ofNat columns)])]

end Layout

namespace GroupSettings

def memberNames : List String := ["layout", "label", "collapsible", "step", "showWhen"]

def ofMembers? : List (Option Tree) → Option GroupSettings
  | [layout, label, collapsible, step, showWhen] => do
    return ⟨← Tree.orDefault .vertical Layout.ofTree? layout, ← Tree.optional Tree.text? label,
      ← Tree.orDefault false Tree.bool? collapsible, ← Tree.optional Tree.nat32? step,
      ← Tree.optional Condition.ofTree? showWhen⟩
  | _ => none

def toMembers (s : GroupSettings) : List (String × Value) :=
  [("layout", s.layout.toValue)] ++
  Value.memberIf "label" s.label .text ++
  [("collapsible", .bool s.isCollapsible)] ++
  Value.memberIf "step" s.step .ofNat ++
  Value.memberIf "showWhen" s.showWhen Condition.toValue

end GroupSettings

namespace FormNode

def kindNames : List String := ["field", "group"]

/-- A group of nodes that were read, with the settings that stand beside them. -/
def ofGroup? (nodes : Option (Entries FormNode)) (settings : Option (List (Option Tree))) :
    Option FormNode := do
  return .group (← GroupSettings.ofMembers? (← settings)) (← nodes)

mutual

/-- Reads a node; `nested` tells that it stands inside something read already. -/
def ofTree? (nested : Bool) : Tree → Option FormNode
  | .record members =>
    match Tree.tagged? "kind" kindNames nested (.record members) with
    | some (0, body) => (FormField.ofTree? true body).map .field
    | some (1, .record rest) =>
      match Tree.member? (nodeMapsOfMembers members) "fields" with
      | some (some nodes) => ofGroup? nodes (Tree.arrange? GroupSettings.memberNames false rest)
      | _ => none
    | _ => none
  | .list (tag :: rest) =>
    match Tree.tagged? "kind" kindNames nested (.list (tag :: rest)) with
    | some (0, body) => (FormField.ofTree? true body).map .field
    | some (1, _) => match rest with
      | fields :: settings =>
        ofGroup? (nodeMapOf? fields) (Tree.arrangeItems? GroupSettings.memberNames settings)
      | [] => none
    | _ => none
  | _ => none

/-- Reads a record of nodes. -/
def nodeMapOf? : Tree → Option (Entries FormNode)
  | .record members => (nodesOfMembers? true members).map Entries.ofPairs
  | _ => none

/-- Reads the nodes of a record. -/
def nodesOfMembers? (nested : Bool) : List (String × Tree) → Option (List (String × FormNode))
  | [] => some []
  | (k, t) :: rest => match ofTree? nested t, nodesOfMembers? nested rest with
    | some n, some ns => some ((k, n) :: ns)
    | _, _ => none

/-- Every member of a record as a record of nodes. -/
def nodeMapsOfMembers : List (String × Tree) → List (String × Option (Entries FormNode))
  | [] => []
  | (k, t) :: rest => (k, nodeMapOf? t) :: nodeMapsOfMembers rest

end

mutual

/-- The written form of a node. -/
def toValue : FormNode → Value
  | .field f => .record (("kind", .text "field") :: f.toMembers)
  | .group settings nodes => .record ([("kind", .text "group"),
      ("fields", .record (nodesToMembers nodes))] ++ settings.toMembers)

/-- The written forms of nodes under their keys. -/
def nodesToMembers : List (String × FormNode) → List (String × Value)
  | [] => []
  | (k, n) :: rest => (k, n.toValue) :: nodesToMembers rest

end

end FormNode

namespace Form

/-- Reads a form: a record of nodes. -/
def ofTree? : Tree → Option Form
  | .record members => (FormNode.nodesOfMembers? false members).map Entries.ofPairs
  | _ => none

/-- The written form of a form. -/
def toValue (form : Form) : Value := .record (FormNode.nodesToMembers form)

/-- Reads a form from a text. -/
def ofText? (s : String) : Option Form := (Tree.ofText? s).bind ofTree?

end Form

end Formwork
