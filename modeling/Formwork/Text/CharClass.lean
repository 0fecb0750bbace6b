/-!
# Classes of characters

A class of characters is an ascending list of closed ranges of code points.
`CharClass.normalize` brings any list of ranges into that form, and the set
operations work on it; `CharClass.contains` asks one character.
-/

namespace Formwork

/-- A list of closed ranges of code points. -/
abbrev CharClass := List (Nat × Nat)

/-- The greatest code point. -/
def maxCodePoint : Nat := 0x10FFFF

namespace CharClass

def containsCode (ranges : CharClass) (code : Nat) : Bool :=
  ranges.any fun r => r.1 ≤ code && code ≤ r.2

def contains (ranges : CharClass) (c : Char) : Bool := containsCode ranges c.toNat

def single (c : Char) : CharClass := [(c.toNat, c.toNat)]

/-- Joins ranges that touch, in a list sorted by the lower ends. -/
def merge : Nat × Nat → CharClass → CharClass
  | r, [] => [r]
  | (a, b), (c, d) :: rest =>
    if c ≤ b + 1 then merge (a, max b d) rest else (a, b) :: merge (c, d) rest

/-- The same characters as ascending ranges that do not touch. -/
def normalize (ranges : CharClass) : CharClass :=
  match ranges.mergeSort (fun r s => r.1 ≤ s.1) with
  | [] => []
  | r :: rest => merge r rest

def union (a b : CharClass) : CharClass := normalize (a ++ b)

/-- The gaps of normalized ranges, from `start` up. -/
def gaps : Nat → CharClass → CharClass
  | start, [] => if start ≤ maxCodePoint then [(start, maxCodePoint)] else []
  | start, (a, b) :: rest =>
    if start < a then (start, a - 1) :: gaps (b + 1) rest else gaps (b + 1) rest

/-- All other characters. -/
def complement (ranges : CharClass) : CharClass := gaps 0 (normalize ranges)

def intersection (a b : CharClass) : CharClass :=
  complement (union (complement a) (complement b))

def difference (a b : CharClass) : CharClass := intersection a (complement b)

def symmetricDifference (a b : CharClass) : CharClass :=
  difference (union a b) (intersection a b)

end CharClass

end Formwork
