import Formwork.Number.Numeral
import Formwork.Value.Basic

/-!
# Paths into a snapshot

A path names a place in a snapshot: the segments between its dots are keys of
records or positions in lists, walked from the top.  A key of the snapshot that
is equal to the whole path wins over the walk, so a key may itself contain dots.

* `Snapshot.resolve?` finds the value at a path;
* `Snapshot.resolve?_of_key` and `Snapshot.resolve?_of_no_key` are its two cases.
-/

namespace Formwork

/-- The parts of a text between its dots; a text without dots is one part. -/
def splitAtDots : List Char → List (List Char)
  | [] => [[]]
  | c :: rest =>
    if c = '.' then [] :: splitAtDots rest
    else match splitAtDots rest with
      | part :: parts => (c :: part) :: parts
      | [] => [[c]]

/-- The segments of a path. -/
def segments (path : String) : List String := (splitAtDots path.toList).map String.ofList

/-- A position in a list: decimal digits, perhaps after a plus sign. -/
def position? (segment : String) : Option Nat :=
  let digits := match segment.toList with
    | '+' :: rest => rest
    | s => s
  if digits.isEmpty || !digits.all Char.isDigit then none else some (digitsValue digits)

namespace Value

/-- The part of a value that one segment names. -/
def part? : Value → String → Option Value
  | .record members, segment => Entries.get? members segment
  | .list items, segment => (position? segment).bind (items[·]?)
  | _, _ => none

/-- The part of a value that segments lead to, one after the other. -/
def walk? : Value → List String → Option Value
  | v, [] => some v
  | v, segment :: rest => (v.part? segment).bind (walk? · rest)

end Value

namespace Snapshot

/-- The walk along segments from the top of a snapshot. -/
def walk? (values : Snapshot) : List String → Option Value
  | [] => none
  | key :: rest => (values.get? key).bind (Value.walk? · rest)

/-- The value at a path: the value of the key equal to it, or else the end of the walk. -/
def resolve? (values : Snapshot) (path : String) : Option Value :=
  match values.get? path with
  | some v => some v
  | none => values.walk? (segments path)

/-- A path that is a key has the value of the key. -/
theorem resolve?_of_key {values : Snapshot} {path : String} {v : Value}
    (h : values.get? path = some v) : values.resolve? path = some v := by
  simp [resolve?, h]

/-- Any other path is walked segment by segment. -/
theorem resolve?_of_no_key {values : Snapshot} {path : String} (h : values.get? path = none) :
    values.resolve? path = values.walk? (segments path) := by
  simp [resolve?, h]

end Snapshot

end Formwork
