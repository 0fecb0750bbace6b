import Formwork.Number.Numeral
import Formwork.Value.Basic

/-!
# Numbers as JSON writes them

A written number is a sign, digits, and perhaps a fraction and a power of ten.
One without fraction and power that fits the signed or the unsigned 64-bit range
is that integer; every other one is a binary64 number, and none if it is too
large for the format.

The binary64 number is not always the nearest one: the digits are first gathered
into a significand of 64 bits, digits that no longer fit being dropped, and the
significand is then scaled by the power of ten in floating point.
-/

namespace Formwork

/-- A number as it is written: the digits of its parts. -/
structure JsonNumeral where
  negative : Bool
  whole : List Char
  fraction : Option (List Char)
  exponent : Option (Bool × List Char)
deriving DecidableEq, Repr

/-- One more than the greatest significand. -/
def significandLimit : Nat := Nat.pow 2 64

/-- Appends digits to a significand while it stays under the limit; also tells
how many were appended. -/
def absorbDigits : Nat → List Char → Nat × Nat
  | significand, [] => (significand, 0)
  | significand, d :: rest =>
    let next := significand * 10 + digitsValue [d]
    if next < significandLimit then
      let (total, count) := absorbDigits next rest
      (total, count + 1)
    else (significand, 0)

namespace Binary64

/-- The units of the number nearest to `10 ^ k`, for a `k` within the format. -/
def powerOfTen (k : Nat) : Nat := (FloatFormat.binary64.nearest (Nat.pow 10 k) 1).getD 0

/-- Divides a magnitude by `10 ^ 308` as often as `steps` says and then by
`10 ^ last`, rounding after each step. -/
def scaleDown (last : Nat) : Nat → Nat → Option Nat
  | 0, units => FloatFormat.binary64.nearest units (powerOfTen last)
  | steps + 1, units =>
    if units = 0 then some 0
    else match FloatFormat.binary64.nearest units (powerOfTen 308) with
      | some scaled => scaleDown last steps scaled
      | none => none

/-- Scales a magnitude by `10 ^ e`, rounding after each step; a step goes as far
as the format has powers of ten.  `none` when the result is too large. -/
def scaleByTen (units : Nat) (e : Int) : Option Nat :=
  if e < 0 then
    let steps := (e.natAbs - 1) / 308
    scaleDown (e.natAbs - 308 * steps) steps units
  else if e ≤ 308 then
    FloatFormat.binary64.nearest (units * powerOfTen e.natAbs) (unitsPerOne * unitsPerOne)
  else if units = 0 then some 0
  else none

end Binary64

namespace JsonNumeral

/-- Digits that stand for an integer of the signed or unsigned 64-bit range; a
negative zero is not an integer. -/
def integer? (negative : Bool) (digits : List Char) : Option Int :=
  let n := digitsValue digits
  if negative then
    if n = 0 ∨ Nat.pow 2 63 < n then none else some (-(n : Int))
  else if n < significandLimit then some n else none

/-- The power of ten of a numeral. -/
def power (n : JsonNumeral) : Int :=
  match n.exponent with
  | none => 0
  | some (negative, ds) => if negative then -(digitsValue ds : Int) else digitsValue ds

/-- The binary64 number of a numeral. -/
def real? (n : JsonNumeral) : Option Binary64 :=
  let (significand, taken) := absorbDigits 0 n.whole
  let (significand, placed) := absorbDigits significand (n.fraction.getD [])
  let e := ((n.whole.length - taken : Nat) : Int) - placed + n.power
  match FloatFormat.binary64.nearest significand 1 with
  | none => none
  | some units => (Binary64.scaleByTen units e).map (Binary64.finite n.negative)

/-- What a numeral stands for, if it stands for anything. -/
def value? (n : JsonNumeral) : Option Numeric :=
  match n.fraction, n.exponent with
  | none, none => match integer? n.negative n.whole with
    | some i => some (.integer i)
    | none => n.real?.map .real
  | _, _ => n.real?.map .real

/-- Digits at the head of a text, at least one, and the rest. -/
def takeDigits? (s : List Char) : Option (List Char × List Char) :=
  match s.takeWhile Char.isDigit with
  | [] => none
  | ds => some (ds, s.dropWhile Char.isDigit)

/-- The digits before the point: a leading zero stands alone. -/
def takeWhole? (s : List Char) : Option (List Char × List Char) :=
  match takeDigits? s with
  | some ('0' :: _ :: _, _) => none
  | r => r

/-- A point with at least one digit, or nothing. -/
def takeFraction? : List Char → Option (Option (List Char) × List Char)
  | '.' :: s => (takeDigits? s).map fun (ds, r) => (some ds, r)
  | s => some (none, s)

/-- A mark, an optional sign and at least one digit, or nothing. -/
def takeExponent? : List Char → Option (Option (Bool × List Char) × List Char)
  | c :: s =>
    if c = 'e' ∨ c = 'E' then
      let (negative, ds) := Binary64.takeSign s
      (takeDigits? ds).map fun (ds, r) => (some (negative, ds), r)
    else some (none, c :: s)
  | [] => some (none, [])

/-- Reads a numeral at the head of a text. -/
def read? (s : List Char) : Option (JsonNumeral × List Char) := do
  let (negative, s) := match s with
    | '-' :: r => (true, r)
    | s => (false, s)
  let (whole, s) ← takeWhole? s
  let (fraction, s) ← takeFraction? s
  let (exponent, s) ← takeExponent? s
  return (⟨negative, whole, fraction, exponent⟩, s)

end JsonNumeral

end Formwork
