import Formwork.Text.CharClass

/-!
# Matching

A matcher describes runs of characters.  To search a text, all places between its
characters are marked at once: `Matcher.run` moves a set of marks from the places
where a run may start to the places where it may end, and a text contains a match
when a mark is left.

Marks move forward or stay.  On a text of `n` characters whatever can still
change by repeating a step has changed after `n + 1` repetitions, so longer
repetitions are cut there.

A matcher with its repetitions written out takes room (`Matcher.room`), and there is a
limit to it.  Engines for regular expressions limit the size of what a pattern compiles
to; room is an estimate of that size, made for this engine, so a pattern near the limit
may be refused by one engine and accepted by another.
-/

namespace Formwork

namespace Pattern

/-- A place in a text: the character before it and the one after it. -/
structure Place where
  before : Option Char
  after : Option Char
deriving DecidableEq, Repr

/-- A description of runs of characters. -/
inductive Matcher where
  | empty
  | one (chars : CharClass)
  | place (holds : Place → Bool)
  | seq (first second : Matcher)
  | alt (left right : Matcher)
  | repeated (body : Matcher) (least : Nat) (most : Option Nat)

/-- For every place of a text whether it is marked. -/
abbrev Marks := List Bool

/-- The places of a text, `before` being the character before the first. -/
def placesFrom (before : Option Char) : List Char → List Place
  | [] => [⟨before, none⟩]
  | c :: rest => ⟨before, some c⟩ :: placesFrom (some c) rest

def Marks.both (a b : Marks) : Marks := List.zipWith (· && ·) a b

def Marks.either (a b : Marks) : Marks := List.zipWith (· || ·) a b

/-- The places reached by at most `n` steps; when one step reaches nothing new, no
further one does. -/
def reach (step : Marks → Marks) : Nat → Marks → Marks
  | 0, marks => marks
  | n + 1, marks =>
    let more := marks.either (step marks)
    if more = marks then marks else reach step n more

/-- The places reached by exactly `n` steps. -/
def iterate (step : Marks → Marks) : Nat → Marks → Marks
  | 0, marks => marks
  | n + 1, marks => iterate step n (step marks)

/-- Moves marks from the starts of runs to their ends, in the text `chars` with its places. -/
def Matcher.run (chars : List Char) (places : List Place) : Matcher → Marks → Marks
  | .empty, marks => marks
  | .one ranges, marks =>
    false :: List.zipWith (fun marked c => marked && ranges.contains c) marks chars
  | .place holds, marks => marks.both (places.map holds)
  | .seq first second, marks => second.run chars places (first.run chars places marks)
  | .alt left right, marks =>
    (left.run chars places marks).either (right.run chars places marks)
  | .repeated body least most, marks =>
    let step := body.run chars places
    let limit := chars.length + 1
    let started := iterate step (min least limit) marks
    match most with
    | none => reach step limit started
    | some most => reach step (min (most - least) limit) started

/-- An estimate of the room that a class of characters takes: little for a few ranges of
ASCII, and much for the long tables of Unicode. -/
def classRoom (ranges : CharClass) : Nat :=
  if ranges.all (fun r => decide (r.2 < 128)) then
    if ranges.length ≤ 1 then 32 else 64 + 8 * ranges.length
  else 64 * ranges.length

/-- An estimate of the room that a matcher takes when its repetitions are written out. -/
def Matcher.room : Matcher → Nat
  | .empty => 32
  | .one ranges => classRoom ranges
  | .place _ => 32
  | .seq first second => first.room + second.room
  | .alt left right => 32 + left.room + right.room
  | .repeated body least most =>
    match most with
    | none => 64 + max 1 least * body.room
    | some most => 32 + least * body.room + (most - least) * (32 + body.room)

/-- The room that a matcher may take by that estimate. -/
def roomLimit : Nat := 10 * Nat.pow 2 20

/-- Some run of the text is described by the matcher. -/
def Matcher.occursIn (m : Matcher) (text : List Char) : Bool :=
  let places := placesFrom none text
  (m.run text places (places.map fun _ => true)).any id

end Pattern

end Formwork
