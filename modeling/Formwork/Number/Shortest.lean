import Formwork.Number.Binary64

/-!
# The fewest digits that read back

A finite binary number is written with the least number of decimal digits that
still singles it out: among the decimals that round to it, those with the
fewest digits, and of these the nearest one.  `FloatFormat.shortest` finds the
digits exactly, in natural numbers; the two written forms built on it differ in
how they place the point.

* `Decimal.plain` never uses an exponent: `0.0000001`, `100000000000000000000`.
* `Decimal.scientific` keeps a point between `1e-5` and `1e16` and uses an
  exponent outside: `100000.0`, `1e-7`, `1e+16`.
-/

namespace Formwork

/-- Where a value lies exactly between two decimals of the fewest digits. -/
inductive DecimalTie where
  | toEven
  | upward
deriving DecidableEq, Repr

/-- The positive decimal `coefficient * 10 ^ exponent`. -/
structure Decimal where
  coefficient : Nat
  exponent : Int
deriving DecidableEq, Repr

/-- Strips `n` of its trailing zeros, at most `fuel` of them, moving them into the exponent. -/
def Decimal.stripZeros : Nat → Nat → Int → Decimal
  | 0, n, e => ⟨n, e⟩
  | fuel + 1, n, e => if n % 10 = 0 then stripZeros fuel (n / 10) (e + 1) else ⟨n, e⟩

namespace FloatFormat

variable (f : FloatFormat)

/-- The least `j ≥ start` within `fuel` steps for which `num * 10 ^ j` reaches `den`. -/
def leadingZeros (num den : Nat) : Nat → Nat → Nat
  | 0, j => j
  | fuel + 1, j => if num * Nat.pow 10 j < den then leadingZeros num den fuel (j + 1) else j

/-- The exponent `p` with `10 ^ p ≤ units < 10 ^ (p + 1)`, in units of the format. -/
def decimalExponent (units : Nat) : Int :=
  let one := Nat.pow 2 f.unitExponent
  if one ≤ units then ((Nat.toDigits 10 (units / one)).length : Int) - 1
  else -(leadingZeros units one 400 1 : Int)

/-- The digits of `units` on the grid `10 ^ e`, if a point of that grid rounds
back to it.  The candidates are the two neighbours of the value on the grid; the
bounds of the interval that rounds to the value belong to it exactly when the
significand is even. -/
def onGrid (tie : DecimalTie) (units : Nat) (e : Int) : Option Nat :=
  let gap := f.spacing units
  let gapBelow := if units = Nat.pow 2 (bitLength units - 1) ∧ 1 < gap then gap / 2 else gap
  let closed := (units / gap) % 2 = 0
  -- a coefficient `d` stands for `d * up` against units times `down`
  let up := Nat.pow 10 e.toNat * Nat.pow 2 f.unitExponent
  let down := Nat.pow 10 (-e).toNat
  let value := units * down
  let inside (d : Nat) : Bool :=
    let at4 := 4 * d * up
    let lo := (4 * units - 2 * gapBelow) * down
    let hi := (4 * units + 2 * gap) * down
    if closed then lo ≤ at4 && at4 ≤ hi else lo < at4 && at4 < hi
  let floor := value / up
  let rest := 2 * (value % up)
  match inside floor, inside (floor + 1) with
  | true, true =>
    if rest < up then some floor
    else if up < rest then some (floor + 1)
    else match tie with
      | .toEven => some (if floor % 2 = 0 then floor else floor + 1)
      | .upward => some (floor + 1)
  | true, false => some floor
  | false, true => some (floor + 1)
  | false, false => none

/-- The decimal with the fewest digits that reads back as `units`; zero has the
coefficient zero. -/
def shortest (tie : DecimalTie) (units : Nat) : Decimal :=
  if units = 0 then ⟨0, 0⟩
  else
    let p := f.decimalExponent units
    let onDigits (n : Nat) : Option Decimal :=
      let e := p - n
      (f.onGrid tie units e).map fun d => Decimal.stripZeros 20 d e
    ((List.range 17).findSome? onDigits).getD ⟨0, 0⟩

end FloatFormat

namespace Decimal

/-- The digits of the coefficient. -/
def digits (d : Decimal) : List Char := Nat.toDigits 10 d.coefficient

/-- How many digits stand before the point; not positive when zeros follow it. -/
def pointAt (d : Decimal) : Int := d.digits.length + d.exponent

/-- Digits with a point and no exponent; a whole number has no point. -/
def plain (d : Decimal) : List Char :=
  let ds := d.digits
  let k := d.pointAt
  if d.coefficient = 0 then ['0']
  else if k ≤ 0 then '0' :: '.' :: (List.replicate (-k).toNat '0' ++ ds)
  else if (ds.length : Int) ≤ k then ds ++ List.replicate (k - ds.length).toNat '0'
  else ds.take k.toNat ++ '.' :: ds.drop k.toNat

/-- Digits with a point from `1e-5` up to `1e16`, with an exponent outside. -/
def scientific (d : Decimal) : List Char :=
  let ds := d.digits
  let k := d.pointAt
  if d.coefficient = 0 then ['0', '.', '0']
  else if 0 < k ∧ k ≤ 16 then
    if (ds.length : Int) ≤ k then ds ++ List.replicate (k - ds.length).toNat '0' ++ ['.', '0']
    else ds.take k.toNat ++ '.' :: ds.drop k.toNat
  else if -5 < k ∧ k ≤ 0 then '0' :: '.' :: (List.replicate (-k).toNat '0' ++ ds)
  else
    let mark := if 0 < k then ['e', '+'] else ['e', '-']
    let power := Nat.toDigits 10 (k - 1).natAbs
    ds.take 1 ++ (if ds.length = 1 then [] else '.' :: ds.drop 1) ++ mark ++ power

end Decimal

namespace Binary64

/-- The text of a number, its magnitude laid out by `layout`. -/
def textWith (tie : DecimalTie) (layout : Decimal → List Char) : Binary64 → List Char
  | .finite negative units =>
    let body := layout (FloatFormat.binary64.shortest tie units)
    if negative then '-' :: body else body
  | .infinite negative => if negative then "-inf".toList else "inf".toList
  | .undefined => "NaN".toList

/-- The text of a number in a sentence: no exponent, `-0` with its sign, a tie upward. -/
def plainText (x : Binary64) : String := String.ofList (x.textWith .upward Decimal.plain)

end Binary64

end Formwork
