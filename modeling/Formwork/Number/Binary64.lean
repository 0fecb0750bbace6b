/-!
# Binary floating-point numbers, exactly

A number of the binary64 format is kept as what it is: a sign and a whole
count of **units**, one unit being the smallest positive number of the format,
`2 ^ -1074`, or one of the two infinities, or the number that is none.
Nothing is opaque to a proof, and comparing two numbers is comparing two
integers.

* `FloatFormat.nearest` rounds a quotient to the format, a half going to the
  even neighbour;
* `Binary64.rank` places every number but the undefined one on a line, and
  `lt`, `le` and `eq` are the comparisons of the standard: false as soon as one
  side is undefined, the two zeros equal.
-/

namespace Formwork

/-- A binary floating-point format: the number of bits in a significand, the
exponent of its unit `2 ^ -unitExponent`, and the bound `2 ^ limitExponent` that
every finite magnitude stays under. -/
structure FloatFormat where
  precision : Nat
  unitExponent : Nat
  limitExponent : Nat
deriving DecidableEq, Repr

/-- The format with 53-bit significands. -/
def FloatFormat.binary64 : FloatFormat := ⟨53, 1074, 1024⟩

/-- The format with 24-bit significands. -/
def FloatFormat.binary32 : FloatFormat := ⟨24, 149, 128⟩

/-- The number of binary digits, zero having none. -/
def bitLength (n : Nat) : Nat := if n = 0 then 0 else n.log2 + 1

/-- The quotient rounded to the nearest integer, a half to the even one. -/
def roundHalfEven (num den : Nat) : Nat :=
  let floor := num / den
  let twice := 2 * (num % den)
  if twice < den then floor
  else if den < twice then floor + 1
  else if floor % 2 = 0 then floor else floor + 1

namespace FloatFormat

variable (f : FloatFormat)

/-- The distance, in units, between neighbours of the format that are as long
as `units`. -/
def spacing (units : Nat) : Nat := Nat.pow 2 (bitLength units - f.precision)

/-- The finite magnitude nearest to `num / den`, in units, a tie going to the
even significand; `none` when the format has no finite number there. -/
def nearest (num den : Nat) : Option Nat :=
  let scaled := num * Nat.pow 2 f.unitExponent
  let gap := f.spacing (scaled / den)
  let units := roundHalfEven scaled (den * gap) * gap
  if units < Nat.pow 2 (f.limitExponent + f.unitExponent) then some units else none

end FloatFormat

/-- A binary64 number; `units` counts multiples of `2 ^ -1074`. -/
inductive Binary64 where
  | finite (negative : Bool) (units : Nat)
  | infinite (negative : Bool)
  | undefined
deriving DecidableEq, Repr, Inhabited

namespace Binary64

/-- One unit divides the number one this often. -/
def unitsPerOne : Nat := Nat.pow 2 1074

def zero : Binary64 := .finite false 0
def one : Binary64 := .finite false unitsPerOne

/-- The number with the given sign nearest to `num / den`. -/
def ofRatio (negative : Bool) (num den : Nat) : Binary64 :=
  match FloatFormat.binary64.nearest num den with
  | some units => .finite negative units
  | none => .infinite negative

/-- The number nearest to an integer. -/
def ofInt (n : Int) : Binary64 := ofRatio (n < 0) n.natAbs 1

/-- The place of a number on the line, in units; the infinities lie beyond
everything finite, and the undefined number has no place. -/
def rank : Binary64 → Option Int
  | .finite negative units => some (if negative then -(units : Int) else units)
  | .infinite negative => some (if negative then -(Nat.pow 2 2098 : Int) else Nat.pow 2 2098)
  | .undefined => none

/-- Compares two places with `r`; nothing holds of the undefined number. -/
def compareBy (r : Int → Int → Bool) (a b : Binary64) : Bool :=
  match a.rank, b.rank with
  | some x, some y => r x y
  | _, _ => false

def lt (a b : Binary64) : Bool := compareBy (fun x y => decide (x < y)) a b
def le (a b : Binary64) : Bool := compareBy (fun x y => decide (x ≤ y)) a b
def eq (a b : Binary64) : Bool := compareBy (fun x y => decide (x = y)) a b

/-- Finite and without a fractional part. -/
def isWhole : Binary64 → Bool
  | .finite _ units => units % unitsPerOne = 0
  | _ => false

/-- The integer that a whole number is; the fraction is dropped otherwise. -/
def truncate : Binary64 → Int
  | .finite negative units =>
    let n : Int := (units / unitsPerOne : Nat)
    if negative then -n else n
  | _ => 0

/-- The magnitude is finite and less than `10 ^ exponent`. -/
def isBelowPowerOfTen (exponent : Nat) : Binary64 → Bool
  | .finite _ units => units < Nat.pow 10 exponent * unitsPerOne
  | _ => false

/-- The same magnitude with the sign `negative`. -/
def withSign (negative : Bool) : Binary64 → Binary64
  | .finite _ units => .finite negative units
  | .infinite _ => .infinite negative
  | .undefined => .undefined

def isFinite : Binary64 → Bool
  | .finite .. => true
  | _ => false

end Binary64

end Formwork
