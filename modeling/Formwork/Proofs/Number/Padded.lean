import Formwork.Number.Numeral
import Mathlib.Algebra.Group.Nat.Defs
import Mathlib.Data.List.Induction

/-!
# Numbers in a fixed number of digits

A number is written in a fixed number of places, with zeros in front if it is short.  Rows of
ASCII digits of one length and the numbers below that power of ten are the same thing.

* `paddedDigits` — a number in so many places;
* `digitsValue_paddedDigits` — a number that has room reads back as itself;
* `paddedDigits_digitsValue` — a row of digits is what its number is written as.
-/

namespace Formwork

/-- The number in so many decimal places; what does not fit is cut off in front. -/
def paddedDigits : Nat → Nat → List Char
  | 0, _ => []
  | places + 1, n => paddedDigits places (n / 10) ++ [Nat.digitChar (n % 10)]

variable {places n : Nat} {c : Char} {ds : List Char}

/-- The character of a digit is a digit. -/
theorem isDigit_digitChar {digit : Nat} (h : digit ≤ 9) : (Nat.digitChar digit).isDigit = true := by
  rw [Nat.isDigit_digitChar]
  exact decide_eq_true (by omega)

/-- A number that is filled up with zeros is written in digits. -/
theorem isDigit_of_mem_paddedDigits (h : c ∈ paddedDigits places n) : c.isDigit = true := by
  induction places generalizing n with
  | zero => cases h
  | succ places ih =>
      rcases List.mem_append.mp h with h | h
      · exact ih h
      · rw [List.mem_singleton.mp h]
        exact isDigit_digitChar (by omega)

theorem isDigit_iff_code : c.isDigit = true ↔ 48 ≤ c.toNat ∧ c.toNat ≤ 57 :=
  Char.isDigit_iff_toNat

/-- A digit is the character of its value. -/
theorem digitChar_of_isDigit (h : c.isDigit = true) : Nat.digitChar (c.toNat - 48) = c := by
  have hrange := isDigit_iff_code.mp h
  refine Char.toNat_inj.mp ?_
  rw [Nat.toNat_digitChar_of_lt_ten (by omega)]
  omega

/-- The characters from `0` up to a digit are the digits up to it. -/
theorem le_digitChar_iff {most : Nat} (hmost : most ≤ 9) :
    ('0' ≤ c ∧ c ≤ Nat.digitChar most) ↔ ∃ digit ≤ most, c = Nat.digitChar digit := by
  have hbounds : ('0' ≤ c ∧ c ≤ Nat.digitChar most) ↔ 48 ≤ c.toNat ∧ c.toNat ≤ 48 + most := by
    rw [← Nat.toNat_digitChar_of_lt_ten (by omega : most < 10)]
    exact and_congr UInt32.le_iff_toNat_le UInt32.le_iff_toNat_le
  rw [hbounds]
  constructor
  · rintro ⟨hlow, hhigh⟩
    have hc : c.isDigit = true := isDigit_iff_code.mpr ⟨hlow, by omega⟩
    exact ⟨c.toNat - 48, by omega, (digitChar_of_isDigit hc).symm⟩
  · rintro ⟨digit, hdigit, rfl⟩
    rw [Nat.toNat_digitChar_of_lt_ten (by omega)]
    omega

/-- A further digit counts once, and all before it ten times as much. -/
theorem digitsValue_snoc (ds : List Char) (c : Char) :
    digitsValue (ds ++ [c]) = 10 * digitsValue ds + (c.toNat - 48) := by
  simp [digitsValue, Nat.ofDigitChars_append, Nat.ofDigitChars_cons]

/-- A number that fits into its places is read as itself. -/
theorem digitsValue_paddedDigits (h : n < 10 ^ places) :
    digitsValue (paddedDigits places n) = n := by
  induction places generalizing n with
  | zero =>
      obtain rfl : n = 0 := by simpa using h
      rfl
  | succ places ih =>
      have hfront : n / 10 < 10 ^ places := by
        rw [Nat.pow_succ] at h
        omega
      rw [paddedDigits, digitsValue_snoc, ih hfront,
        Nat.toNat_digitChar_sub_48_of_lt_ten (Nat.mod_lt n (by decide))]
      omega

/-- Digits come to less than a one with as many zeros. -/
theorem digitsValue_lt (h : ∀ c ∈ ds, c.isDigit = true) : digitsValue ds < 10 ^ ds.length := by
  induction ds using List.reverseRecOn with
  | nil => decide
  | append_singleton ds c ih =>
      obtain ⟨hds, hc⟩ := List.forall_mem_append.mp h
      have hrange := isDigit_iff_code.mp (hc c (List.mem_singleton_self c))
      have hfront := ih hds
      rw [digitsValue_snoc, List.length_append, List.length_singleton, Nat.pow_succ]
      omega

/-- A row of digits is its number, written in as many places. -/
theorem paddedDigits_digitsValue (h : ∀ c ∈ ds, c.isDigit = true) :
    paddedDigits ds.length (digitsValue ds) = ds := by
  induction ds using List.reverseRecOn with
  | nil => rfl
  | append_singleton ds c ih =>
      obtain ⟨hds, hc⟩ := List.forall_mem_append.mp h
      have hdigit := hc c (List.mem_singleton_self c)
      have hrange := isDigit_iff_code.mp hdigit
      have hfront : (10 * digitsValue ds + (c.toNat - 48)) / 10 = digitsValue ds := by omega
      have hlast : (10 * digitsValue ds + (c.toNat - 48)) % 10 = c.toNat - 48 := by omega
      rw [List.length_append, List.length_singleton, paddedDigits, digitsValue_snoc, hfront,
        hlast, ih hds, digitChar_of_isDigit hdigit]

end Formwork
