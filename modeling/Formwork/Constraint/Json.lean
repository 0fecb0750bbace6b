import Formwork.Constraint.Basic
import Formwork.Json.Tagged

/-!
# Constraints in JSON

A constraint is tagged by its type; the other members are the bounds and the
message, written even where they are not set.
-/

namespace Formwork

namespace TextFormat

def name : TextFormat → String
  | .email => "email"
  | .url => "url"

def ofTree? (t : Tree) : Option TextFormat :=
  match t.name? with
  | some "email" => some .email
  | some "url" => some .url
  | _ => none

end TextFormat

namespace Constraint

/-- The types of constraints, in the order of their numbers. -/
def typeNames : List String :=
  ["any", "text", "number", "boolean", "one_of", "many", "date", "date_time"]

/-- A constraint that only says its type: in a list nothing may follow the tag. -/
def ofNothing? : Tree → Option Constraint
  | .record _ => some .any
  | .list [] => some .any
  | _ => none

def textOfMembers? : List (Option Tree) → Option Constraint
  | [lo, hi, pattern, format, message] => do
    return .text (← Tree.optional Tree.nat64? lo) (← Tree.optional Tree.nat64? hi)
      (← Tree.optional Tree.text? pattern) (← Tree.optional TextFormat.ofTree? format)
      (← Tree.optional Tree.text? message)
  | _ => none

def numberOfMembers? : List (Option Tree) → Option Constraint
  | [lo, hi, integer, message] => do
    return .number (← Tree.optional Tree.real? lo) (← Tree.optional Tree.real? hi)
      (← Tree.orDefault false Tree.bool? integer) (← Tree.optional Tree.text? message)
  | _ => none

def booleanOfMembers? : List (Option Tree) → Option Constraint
  | [mustBeTrue, message] => do
    return .boolean (← Tree.orDefault false Tree.bool? mustBeTrue)
      (← Tree.optional Tree.text? message)
  | _ => none

def oneOfMembers? : List (Option Tree) → Option Constraint
  | [values, message] => do
    return .oneOf (← Tree.required (Tree.list? Tree.value?) values)
      (← Tree.optional Tree.text? message)
  | _ => none

def manyOfMembers? : List (Option Tree) → Option Constraint
  | [lo, hi, allowed, message] => do
    return .many (← Tree.optional Tree.nat64? lo) (← Tree.optional Tree.nat64? hi)
      (← Tree.optional (Tree.list? Tree.value?) allowed) (← Tree.optional Tree.text? message)
  | _ => none

/-- The message of a constraint that has no other member. -/
def messageOnly? : List (Option Tree) → Option (Option String)
  | [message] => Tree.optional Tree.text? message
  | _ => none

/-- Reads a constraint; `nested` tells that it stands inside something read already. -/
def ofTree? (nested : Bool) (t : Tree) : Option Constraint := do
  let (kind, body) ← t.tagged? "type" typeNames nested
  let members (names : List String) := body.members? names false
  match kind with
  | 0 => ofNothing? body
  | 1 => textOfMembers? (← members ["min_length", "max_length", "pattern", "format", "message"])
  | 2 => numberOfMembers? (← members ["min", "max", "integer", "message"])
  | 3 => booleanOfMembers? (← members ["must_be_true", "message"])
  | 4 => oneOfMembers? (← members ["values", "message"])
  | 5 => manyOfMembers? (← members ["min_items", "max_items", "one_of", "message"])
  | 6 => return .date (← messageOnly? (← members ["message"]))
  | 7 => return .dateTime (← messageOnly? (← members ["message"]))
  | _ => none

/-- A bound as it is written. -/
def boundValue (x : Binary64) : Value := .number (.real x)

/-- The written form of a constraint. -/
def toValue (c : Constraint) : Value :=
  let ofText (s : Option String) := Value.orNull s .text
  let ofNat (n : Option Nat) := Value.orNull n .ofNat
  let ofReal (x : Option Binary64) := Value.orNull x boundValue
  match c with
  | .any => .record [("type", .text "any")]
  | .text lo hi pattern format message => .record [("type", .text "text"), ("min_length", ofNat lo),
      ("max_length", ofNat hi), ("pattern", ofText pattern),
      ("format", Value.orNull format fun f => .text f.name), ("message", ofText message)]
  | .number lo hi integer message => .record [("type", .text "number"), ("min", ofReal lo),
      ("max", ofReal hi), ("integer", .bool integer), ("message", ofText message)]
  | .boolean mustBeTrue message => .record [("type", .text "boolean"),
      ("must_be_true", .bool mustBeTrue), ("message", ofText message)]
  | .oneOf values message => .record [("type", .text "one_of"), ("values", .list values),
      ("message", ofText message)]
  | .many lo hi allowed message => .record [("type", .text "many"), ("min_items", ofNat lo),
      ("max_items", ofNat hi), ("one_of", Value.orNull allowed .list), ("message", ofText message)]
  | .date message => .record [("type", .text "date"), ("message", ofText message)]
  | .dateTime message => .record [("type", .text "date_time"), ("message", ofText message)]

end Constraint

namespace FieldRule

/-- Reads the rule of a field. -/
def ofTree? (t : Tree) : Option FieldRule := do
  match ← t.members? ["constraint", "optional"] false with
  | [c, o] => return ⟨← Tree.required (Constraint.ofTree? false) c, ← Tree.required Tree.bool? o⟩
  | _ => none

/-- The written form of the rule of a field. -/
def toValue (r : FieldRule) : Value :=
  .record [("constraint", r.constraint.toValue), ("optional", .bool r.isOptional)]

end FieldRule

end Formwork
