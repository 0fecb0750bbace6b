import Formwork.Constraint.Basic
import Formwork.Pattern.Meaning

/-!
# Numbers within bounds

A number constraint refuses a number that is below its least or above its greatest.  To be
neither is not to be in between: the undefined number, which a text can name, is not below and
not above anything.  So every number within the bounds passes, and of the others the undefined
one, unless whole numbers are asked for, since it is none.

* `Binary64.lt_eq_false_iff` — a number that is not below another is at least that, or the two
  are unordered;
* `Value.ReadAs` — the number that a value is, or that a text names;
* `Constraint.Within` — what the bounds ask of a number;
* `number_check_eq_none_iff` — the tests that a number constraint makes;
* `number_kept_within_bounds` — the values that it passes, within its bounds and not.
-/

namespace Formwork

/-! ## Comparing numbers -/

namespace Binary64

variable {a b x : Binary64}

/-- One of the two is undefined, so that no comparison holds between them. -/
def Unordered (a b : Binary64) : Prop := a = .undefined ∨ b = .undefined

/-- Only the undefined number has no place among the numbers. -/
theorem rank_eq_none_iff : x.rank = none ↔ x = .undefined := by
  cases x with
  | undefined => exact iff_of_true rfl rfl
  | finite => exact iff_of_false nofun nofun
  | infinite => exact iff_of_false nofun nofun

/-- A number that is not below another one is at least that, or they are unordered. -/
theorem lt_eq_false_iff : a.lt b = false ↔ b.le a = true ∨ Unordered a b := by
  unfold Unordered lt le compareBy
  rw [← rank_eq_none_iff, ← rank_eq_none_iff]
  cases a.rank with
  | none => cases b.rank <;> simp
  | some m => cases b.rank <;> simp

/-- The number is a whole count of ones. -/
def IsInteger (x : Binary64) : Prop := ∃ negative n, x = .finite negative (n * unitsPerOne)

/-- A number is whole exactly if it is an integer. -/
theorem isWhole_iff : x.isWhole = true ↔ x.IsInteger := by
  constructor
  · intro h
    cases x with
    | finite negative units =>
        have hrest : units % unitsPerOne = 0 := by simpa [isWhole] using h
        exact ⟨negative, units / unitsPerOne,
          congrArg _ (Nat.div_mul_cancel (Nat.dvd_of_mod_eq_zero hrest)).symm⟩
    | infinite negative => cases h
    | undefined => cases h
  · intro h
    obtain ⟨negative, n, rfl⟩ := h
    simp [isWhole]

/-- The undefined number is none. -/
theorem not_isInteger_undefined : ¬ undefined.IsInteger := by
  intro h
  obtain ⟨negative, n, h⟩ := h
  cases h

end Binary64

/-! ## The numbers of values -/

/-- The value is this number, or a text that names it between blanks. -/
inductive Value.ReadAs : Value → Binary64 → Prop
  | number (n : Numeric) : ReadAs (.number n) n.toBinary64
  | text {s : String} {x : Binary64} (h : textNumber? s = some x) : ReadAs (.text s) x

/-- A constraint finds in a value the number that the value is read as. -/
theorem Constraint.numberOf?_eq_some_iff {v : Value} {x : Binary64} :
    numberOf? v = some x ↔ v.ReadAs x := by
  constructor
  · intro h
    cases v with
    | number n =>
        obtain rfl := Option.some.inj h
        exact .number n
    | text s => exact .text h
    | _ => cases h
  · intro h
    cases h with
    | number n => rfl
    | text h => exact h

/-! ## Tests made in order -/

theorem firstFault_eq_none_iff {tests : List (Option Fault)} :
    firstFault tests = none ↔ ∀ test ∈ tests, test = none := by
  simp [firstFault, List.findSome?_eq_none_iff]

/-- A test against a bound passes if there is no bound or it is kept. -/
theorem faultIf_eq_none_iff {α : Type} {bound : Option α} {broken : α → Bool}
    {fault : α → Fault} :
    faultIf bound broken fault = none ↔ ∀ b, bound = some b → broken b = false := by
  cases bound <;> simp [faultIf]

namespace Constraint

variable {lo hi : Option Binary64} {integer : Bool} {message : Option String} {v : Value}

theorem check_eq_none_iff [PatternEngine] {c : Constraint} : c.check v = none ↔ c.fault? v = none :=
  Option.map_eq_none_iff

/-- What the bounds of a number constraint ask of a number. -/
structure Within (lo hi : Option Binary64) (integer : Bool) (x : Binary64) : Prop where
  least : ∀ b, lo = some b → b.le x = true
  greatest : ∀ b, hi = some b → x.le b = true
  whole : integer = true → x.IsInteger

/-- A number constraint passes the values of which it can read a number, and no test finds
that number at fault. -/
theorem number_check_eq_none_iff [PatternEngine] : (number lo hi integer message).check v = none ↔
    ∃ x, v.ReadAs x ∧ (integer = true → x.IsInteger) ∧ (∀ b, lo = some b → x.lt b = false) ∧
      ∀ b, hi = some b → b.lt x = false := by
  rw [check_eq_none_iff]
  simp only [← numberOf?_eq_some_iff, fault?]
  cases numberOf? v with
  | none => simp
  | some x =>
      simp only [firstFault_eq_none_iff, List.forall_mem_cons, faultIf_eq_none_iff,
        ← Binary64.isWhole_iff, Option.some.injEq, exists_eq_left']
      cases integer <;> simp

variable {x : Binary64}

/-- Between bounds that are defined, a number that is defined is ordered with them. -/
theorem ordered_iff_within (hlo : lo ≠ some .undefined) (hhi : hi ≠ some .undefined)
    (hx : x ≠ .undefined) : ((integer = true → x.IsInteger) ∧
      (∀ b, lo = some b → b.le x = true ∨ x.Unordered b) ∧
      ∀ b, hi = some b → x.le b = true ∨ b.Unordered x) ↔ Within lo hi integer x := by
  constructor
  · rintro ⟨hwhole, hleast, hgreatest⟩
    refine ⟨?_, ?_, hwhole⟩
    · rintro b rfl
      exact (hleast b rfl).resolve_right (by simpa [Binary64.Unordered, hx] using hlo)
    · rintro b rfl
      exact (hgreatest b rfl).resolve_right (by simpa [Binary64.Unordered, hx] using hhi)
  · intro hwithin
    exact ⟨hwithin.whole, fun b hb => .inl (hwithin.least b hb),
      fun b hb => .inl (hwithin.greatest b hb)⟩

/-- The undefined number is unordered with every bound, and it is no integer. -/
theorem undefined_passes_iff : ((integer = true → Binary64.undefined.IsInteger) ∧
    (∀ b, lo = some b → b.le .undefined = true ∨ Binary64.Unordered .undefined b) ∧
    ∀ b, hi = some b → Binary64.undefined.le b = true ∨ b.Unordered .undefined) ↔
      integer = false := by
  simp [Binary64.Unordered, Binary64.not_isInteger_undefined]

end Constraint

/-- **A number constraint keeps all but the undefined number within its bounds.**  A value
passes exactly if it is a number, or a text that names one, which is an integer where whole
numbers are asked for, and which is at least the least number and at most the greatest, or is
unordered with it.  So where the bounds themselves are defined, a value passes exactly if its
number is within them, or if it names the undefined number and whole numbers are not asked
for. -/
theorem number_kept_within_bounds [PatternEngine] (lo hi : Option Binary64) (integer : Bool)
    (message : Option String) (v : Value) :
    let c := Constraint.number lo hi integer message
    (c.check v = none ↔ ∃ x, v.ReadAs x ∧ (integer = true → x.IsInteger) ∧
      (∀ b, lo = some b → b.le x = true ∨ x.Unordered b) ∧
      ∀ b, hi = some b → x.le b = true ∨ b.Unordered x) ∧
    (lo ≠ some .undefined → hi ≠ some .undefined → (c.check v = none ↔ ∃ x, v.ReadAs x ∧
      (Constraint.Within lo hi integer x ∨ x = .undefined ∧ integer = false))) := by
  intro c
  have hpasses : c.check v = none ↔ ∃ x, v.ReadAs x ∧ (integer = true → x.IsInteger) ∧
      (∀ b, lo = some b → b.le x = true ∨ x.Unordered b) ∧
      ∀ b, hi = some b → x.le b = true ∨ b.Unordered x := by
    simp only [c, Constraint.number_check_eq_none_iff, Binary64.lt_eq_false_iff]
  refine ⟨hpasses, fun hlo hhi => ?_⟩
  rw [hpasses]
  refine exists_congr fun x => and_congr_right fun _ => ?_
  by_cases hx : x = .undefined
  · subst hx
    rw [Constraint.undefined_passes_iff]
    constructor
    · intro hinteger
      exact .inr ⟨rfl, hinteger⟩
    · rintro (hwithin | ⟨-, hinteger⟩)
      · exact Bool.eq_false_iff.mpr fun h => Binary64.not_isInteger_undefined (hwithin.whole h)
      · exact hinteger
  · rw [Constraint.ordered_iff_within hlo hhi hx]
    simp [hx]

/-- Five, written between blanks, is a whole number from zero to ten. -/
theorem five_kept_within_bounds : some Binary64.zero ≠ some .undefined ∧
    some (Binary64.ofInt 10) ≠ some .undefined ∧
    (Constraint.number (some .zero) (some (.ofInt 10)) true none).check (.text " 5 ") = none := by
  have hzero : some Binary64.zero ≠ some .undefined := by decide
  have hten : some (Binary64.ofInt 10) ≠ some .undefined := by decide +kernel
  obtain ⟨_, hdefined⟩ := number_kept_within_bounds (some .zero) (some (.ofInt 10)) true none
    (.text " 5 ")
  refine ⟨hzero, hten, (hdefined hzero hten).mpr ⟨.ofInt 5, .text (by decide +kernel), .inl ?_⟩⟩
  refine ⟨?_, ?_, fun _ => Binary64.isWhole_iff.mp (by decide +kernel)⟩
  · rintro b hb
    obtain rfl := Option.some.inj hb
    decide +kernel
  · rintro b hb
    obtain rfl := Option.some.inj hb
    decide +kernel

/-- The text that names the undefined number passes, and that number is not from zero to ten. -/
theorem undefined_kept_in_no_bounds :
    (Constraint.number (some .zero) (some (.ofInt 10)) false none).check (.text "nan") = none ∧
    ¬ ∃ x, (Value.text "nan").ReadAs x ∧
      Constraint.Within (some .zero) (some (.ofInt 10)) false x := by
  refine ⟨by decide +kernel, ?_⟩
  intro h
  obtain ⟨x, hread, hwithin⟩ := h
  have hnan : Value.textNumber? "nan" = some .undefined := by decide +kernel
  cases hread with
  | text hx =>
      obtain rfl := Option.some.inj (hnan.symm.trans hx)
      exact absurd (hwithin.least _ rfl) (by decide)

end Formwork
