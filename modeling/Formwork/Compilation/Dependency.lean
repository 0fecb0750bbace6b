import Formwork.Schema.Basic

/-!
# Which field depends on which

A condition reads paths, and a path belongs to a field: to the one named like the
whole path, or else to the one named like the longest part of it that ends before
a dot.  The fields that own the paths of a field's condition are the fields that
its visibility depends on.

* `owner?` finds the field a path belongs to;
* `dependencies` lists the fields that a field depends on, sorted and each once;
* `cycle?` finds a cycle of dependencies, if there is one, by a search that starts
  from every field in order and follows dependencies in theirs.
-/

namespace Formwork

/-- The parts of a text that end before a dot, the longest first. -/
def dotStems : List Char → List (List Char)
  | [] => []
  | c :: rest => (dotStems rest).map (c :: ·) ++ if c = '.' then [[]] else []

/-- The name of the field that a path belongs to. -/
def owner? (fields : Entries FormField) (path : String) : Option String :=
  (path :: (dotStems path.toList).map String.ofList).find? fields.contains

/-- The names of the fields that a condition depends on, sorted and each once. -/
def conditionDependencies (fields : Entries FormField) (c : Option Condition) : List String :=
  let paths := (c.map Condition.paths).getD []
  ((paths.filterMap (owner? fields)).eraseDups).mergeSort fun a b => a ≤ b

/-- The names of the fields that the field with this name depends on. -/
def dependencies (fields : Entries FormField) (name : String) : List String :=
  conditionDependencies fields ((fields.get? name).bind FormField.showWhen)

/-- The end of a search: the names that are settled, or a cycle as a path. -/
abbrev Search := Except (List String) (List String)

/-- Searches from a name.  `trail` holds the names between the start and here, and
`settled` the names that lead to no cycle; a name of the trail closes a cycle.  The
trail never holds a name twice, so `fuel` may be the number of fields and one more. -/
def visit (next : String → List String) : Nat → List String → List String → String → Search
  | 0, _, settled, _ => .ok settled
  | fuel + 1, trail, settled, name =>
    if settled.contains name then .ok settled
    else if trail.contains name then .error (trail.dropWhile (· ≠ name) ++ [name])
    else match (next name).foldlM (visit next fuel (trail ++ [name])) settled with
      | .ok settled => .ok (name :: settled)
      | .error path => .error path

/-- A cycle among the dependencies, the first and the last name of the path being the same. -/
def cycle? (fields : Entries FormField) : Option (List String) :=
  let search : Search :=
    fields.keys.foldlM (visit (dependencies fields) (fields.length + 1) []) []
  match search with
  | .ok _ => none
  | .error path => some path

end Formwork
