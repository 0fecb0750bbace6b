import Formwork.Proofs.Constraint.Bounds
import Formwork.Proofs.Number.Padded
import Mathlib.Tactic.IntervalCases

/-!
# Calendar dates

The days of the Gregorian calendar, carried back before its beginning to the year zero, are told
by the lengths of its months.  A date is recognised at the head of a text by its marks, its
digits, and a table of months; what is recognised is exactly what the days are written as.

* `MonthLength` and `IsCalendarDay` — the calendar;
* `afterDate?_eq_some_iff` — a date at the head of a text;
* `dates_are_calendar_days` — the values that a date constraint passes.
-/

namespace Formwork

/-! ## The calendar -/

/-- The years with a day more: every fourth, but of the full centuries only every fourth. -/
def IsLeap (year : Nat) : Prop := (4 ∣ year ∧ ¬ 100 ∣ year) ∨ 400 ∣ year

/-- The month has so many days in the year. -/
inductive MonthLength (year : Nat) : Nat → Nat → Prop
  | long {month : Nat} (h : month ∈ [1, 3, 5, 7, 8, 10, 12]) : MonthLength year month 31
  | short {month : Nat} (h : month ∈ [4, 6, 9, 11]) : MonthLength year month 30
  | february (h : ¬ IsLeap year) : MonthLength year 2 28
  | leapFebruary (h : IsLeap year) : MonthLength year 2 29

/-- The calendar has this day, and the year has four digits at most. -/
structure IsCalendarDay (year month day : Nat) : Prop where
  year_le : year ≤ 9999
  one_le : 1 ≤ day
  le_length : ∃ length, MonthLength year month length ∧ day ≤ length

/-- The test for leap years follows the rule of the calendar. -/
theorem isLeapYear_iff {year : Nat} : isLeapYear year = true ↔ IsLeap year := by
  simp [isLeapYear, IsLeap, Nat.dvd_iff_mod_eq_zero]

/-- The table of the months follows the calendar. -/
theorem monthLength_iff {year month days : Nat} :
    MonthLength year month days ↔ 1 ≤ month ∧ month ≤ 12 ∧ days = daysInMonth year month := by
  constructor
  · intro h
    cases h with
    | long h =>
        simp only [List.mem_cons, List.not_mem_nil, or_false] at h
        rcases h with rfl | rfl | rfl | rfl | rfl | rfl | rfl <;> simp [daysInMonth]
    | short h =>
        simp only [List.mem_cons, List.not_mem_nil, or_false] at h
        rcases h with rfl | rfl | rfl | rfl <;> simp [daysInMonth]
    | february h => simp [daysInMonth, isLeapYear_iff, h]
    | leapFebruary h => simp [daysInMonth, isLeapYear_iff, h]
  · rintro ⟨hlow, hhigh, rfl⟩
    by_cases hfebruary : month = 2
    · subst hfebruary
      by_cases hleap : IsLeap year
      · simpa [daysInMonth, isLeapYear_iff, hleap] using MonthLength.leapFebruary hleap
      · simpa [daysInMonth, isLeapYear_iff, hleap] using MonthLength.february hleap
    · by_cases hshort : month ∈ [4, 6, 9, 11]
      · simpa [daysInMonth, hfebruary, hshort] using MonthLength.short hshort
      · have hlong : month ∈ [1, 3, 5, 7, 8, 10, 12] := by
          interval_cases month <;> simp_all
        simpa [daysInMonth, hfebruary, hshort] using MonthLength.long hlong

/-- No month has more than 31 days. -/
theorem daysInMonth_le (year month : Nat) : daysInMonth year month ≤ 31 := by
  unfold daysInMonth
  split <;> split <;> omega

/-- A date is a day of the calendar if its month is one and its day is not after the last. -/
theorem isCalendarDay_iff {year month day : Nat} : IsCalendarDay year month day ↔ year ≤ 9999 ∧
    1 ≤ month ∧ month ≤ 12 ∧ 1 ≤ day ∧ day ≤ daysInMonth year month := by
  constructor
  · rintro ⟨hyear, hday, length, hlength, hle⟩
    obtain ⟨hlow, hhigh, rfl⟩ := monthLength_iff.mp hlength
    exact ⟨hyear, hlow, hhigh, hday, hle⟩
  · rintro ⟨hyear, hlow, hhigh, hday, hle⟩
    exact ⟨hyear, hday, _, monthLength_iff.mpr ⟨hlow, hhigh, rfl⟩, hle⟩

/-! ## Dates in text -/

/-- How a day is written: the year in four digits, the month and the day in two. -/
def dateChars (year month day : Nat) : List Char :=
  paddedDigits 4 year ++ '-' :: (paddedDigits 2 month ++ '-' :: paddedDigits 2 day)

variable {s rest : List Char}

/-- Four characters, two and two, with marks between them, are a date if they are digits and
the calendar has that day. -/
theorem afterDate?_chars_eq_some_iff {a b c d m n x y : Char} {after : List Char} :
    afterDate? (a :: b :: c :: d :: '-' :: m :: n :: '-' :: x :: y :: rest) = some after ↔
      (∀ e ∈ [a, b, c, d] ++ [m, n] ++ [x, y], e.isDigit = true) ∧
      IsCalendarDay (digitsValue [a, b, c, d]) (digitsValue [m, n]) (digitsValue [x, y]) ∧
      rest = after := by
  rw [afterDate?, ← List.all_eq_true, isCalendarDay_iff]
  by_cases hdigits : [a, b, c, d, m, n, x, y].all Char.isDigit = true
  · have hyear : digitsValue [a, b, c, d] ≤ 9999 := by
      have hlt : digitsValue [a, b, c, d] < 10 ^ 4 := digitsValue_lt fun e he =>
        List.all_eq_true.mp hdigits e (by simp only [List.mem_cons] at he ⊢; tauto)
      omega
    simp only [List.cons_append, List.nil_append, hdigits, if_true, hyear, true_and]
    split
    · rename_i hday
      simp [hday]
    · rename_i hday
      simp [hday]
  · simp only [List.cons_append, List.nil_append, hdigits]
    simp

/-- A date at the head of a text takes four characters, two and two, with marks between them. -/
theorem exists_chars_of_afterDate? (h : afterDate? s = some rest) : ∃ a b c d m n x y after,
    s = a :: b :: c :: d :: '-' :: m :: n :: '-' :: x :: y :: after := by
  unfold afterDate? at h
  split at h
  · exact ⟨_, _, _, _, _, _, _, _, _, rfl⟩
  · cases h

/-- What follows a date at the head of a text is what the text adds to a written day. -/
theorem afterDate?_eq_some_iff : afterDate? s = some rest ↔ ∃ year month day,
    IsCalendarDay year month day ∧ s = dateChars year month day ++ rest := by
  constructor
  · intro h
    obtain ⟨a, b, c, d, m, n, x, y, after, rfl⟩ := exists_chars_of_afterDate? h
    -- numbers are read only of ASCII digits, and these are the digits of what they come to
    obtain ⟨hdigits, hday, rfl⟩ := afterDate?_chars_eq_some_iff.mp h
    obtain ⟨hfront, hdayDigits⟩ := List.forall_mem_append.mp hdigits
    obtain ⟨hyearDigits, hmonthDigits⟩ := List.forall_mem_append.mp hfront
    refine ⟨_, _, _, hday, ?_⟩
    have hyear : paddedDigits 4 _ = _ := paddedDigits_digitsValue hyearDigits
    have hmonth : paddedDigits 2 _ = _ := paddedDigits_digitsValue hmonthDigits
    have hday : paddedDigits 2 _ = _ := paddedDigits_digitsValue hdayDigits
    rw [dateChars, hyear, hmonth, hday]
    rfl
  · rintro ⟨year, month, day, hday, rfl⟩
    obtain ⟨hyear, _, hmonth, _, hlast⟩ := isCalendarDay_iff.mp hday
    have hlength := daysInMonth_le year month
    have hdigits : ∀ places n, ∀ c ∈ paddedDigits places n, c.isDigit = true :=
      fun _ _ _ hc => isDigit_of_mem_paddedDigits hc
    have hyearValue : digitsValue (paddedDigits 4 year) = year :=
      digitsValue_paddedDigits (by omega)
    have hmonthValue : digitsValue (paddedDigits 2 month) = month :=
      digitsValue_paddedDigits (by omega)
    have hdayValue : digitsValue (paddedDigits 2 day) = day :=
      digitsValue_paddedDigits (by omega)
    refine afterDate?_chars_eq_some_iff.mpr ⟨?_, ?_, rfl⟩
    · exact List.forall_mem_append.mpr
        ⟨List.forall_mem_append.mpr ⟨hdigits 4 year, hdigits 2 month⟩, hdigits 2 day⟩
    · rw [← hyearValue, ← hmonthValue, ← hdayValue] at hday
      exact hday

/-- A text is a date exactly if it is what a day is written as. -/
theorem isDateText_iff : isDateText s = true ↔ ∃ year month day,
    IsCalendarDay year month day ∧ s = dateChars year month day := by
  simp only [isDateText, beq_iff_eq, afterDate?_eq_some_iff, List.append_nil]

/-- **A date constraint passes exactly the calendar dates.**  The values that pass are the
texts in which a day of the calendar is written: the year in four ASCII digits, the month and
the day in two, with marks between them and nothing around. -/
theorem dates_are_calendar_days [PatternEngine] (message : Option String) (v : Value) :
    (Constraint.date message).check v = none ↔ ∃ year month day,
      IsCalendarDay year month day ∧ v = .text (String.ofList (dateChars year month day)) := by
  rw [Constraint.check_eq_none_iff]
  cases v with
  | text s =>
      have hfault : (Constraint.date message).fault? (.text s) = none ↔
          isDateText s.toList = true := by
        simp [Constraint.fault?]
      rw [hfault, isDateText_iff]
      simp only [Value.text.injEq, ← String.toList_inj, String.toList_ofList]
  | _ => simp [Constraint.fault?]

end Formwork
