import Formwork.Pattern.Meaning
import Formwork.Proofs.Constraint.CalendarDates

/-!
# Moments

A moment is a day of the calendar and a time of that day, in the notation of ISO 8601.  The
notation is stated over the ways in which its numbers may be written, and there are two of them.
By the standard every digit is one of ASCII.  What is recognised is more: the day is calculated
with and so is in ASCII digits, and the digits that are compared with a bound are too, but a
digit that may be any of ten may also be of any script.

* `TimeWriting` — how the numbers of a time are written, and `ascii` and `anyScript`;
* `TimeWriting.IsMoment` — the notation;
* `ascii_isMoment_iff` — the ISO moments are those whose digits are all of ASCII;
* `isDateTimeText_iff` — a text is recognised exactly if it is a moment in digits of any script;
* `moments_are_iso_iff_ascii` — the values that pass, and those of them in ISO notation.
-/

namespace Formwork

/-! ## Digits of every script -/

/-- The character stands for the digit in the row of some script. -/
def IsScriptDigit (digit : Nat) (c : Char) : Prop :=
  digit ≤ 9 ∧ ∃ row ∈ digitZeros, c.toNat = row + digit

/-- The digits among the characters are those of ASCII. -/
def AsciiDigits (s : List Char) : Prop := ∀ c ∈ s, isAnyDigit c = true → c.isDigit = true

variable {digit : Nat} {a b c : Char} {s t rest : List Char}

/-- A digit of any script stands for some number. -/
theorem isAnyDigit_iff : isAnyDigit c = true ↔ ∃ digit, IsScriptDigit digit c := by
  simp only [isAnyDigit, CharClass.contains, CharClass.containsCode, CharClass.anyDigit,
    List.any_map, List.any_eq_true, Function.comp, Bool.and_eq_true, decide_eq_true_eq]
  constructor
  · rintro ⟨row, hrow, hlow, hhigh⟩
    exact ⟨c.toNat - row, by omega, row, hrow, by omega⟩
  · rintro ⟨digit, hdigit, row, hrow, hcode⟩
    exact ⟨row, hrow, by omega, by omega⟩

theorem isScriptDigit_digitChar (h : digit ≤ 9) : IsScriptDigit digit (Nat.digitChar digit) :=
  ⟨h, 48, by decide, Nat.toNat_digitChar_of_lt_ten (by omega)⟩

/-- In the row of ASCII there is one character for each digit. -/
theorem IsScriptDigit.eq_digitChar (h : IsScriptDigit digit c) (hc : c.isDigit = true) :
    c = Nat.digitChar digit := by
  obtain ⟨hdigit, row, hrow, hcode⟩ := h
  have hrange := isDigit_iff_code.mp hc
  have hrows : ∀ row ∈ digitZeros, row = 48 ∨ 57 < row := by decide
  have hfirst := hrows row hrow
  refine Char.toNat_inj.mp ?_
  rw [Nat.toNat_digitChar_of_lt_ten (by omega)]
  omega

@[simp] theorem asciiDigits_nil : AsciiDigits [] := nofun

@[simp] theorem asciiDigits_cons :
    AsciiDigits (c :: s) ↔ (isAnyDigit c = true → c.isDigit = true) ∧ AsciiDigits s :=
  List.forall_mem_cons

@[simp] theorem asciiDigits_append : AsciiDigits (s ++ t) ↔ AsciiDigits s ∧ AsciiDigits t :=
  List.forall_mem_append

theorem asciiDigits_paddedDigits (places n : Nat) : AsciiDigits (paddedDigits places n) :=
  fun _ hc _ => isDigit_of_mem_paddedDigits hc

/-- The number is written in two digits, the first of ASCII and the second of any script. -/
def InTwoDigits (n : Nat) (s : List Char) : Prop :=
  ∃ c, s = [Nat.digitChar (n / 10), c] ∧ IsScriptDigit (n % 10) c

/-- Two digits stand for the tens and the ones, of which only the ones may be of another script.
-/
theorem inTwoDigits {tens ones : Nat} (h : IsScriptDigit ones c) :
    InTwoDigits (10 * tens + ones) [Nat.digitChar tens, c] := by
  have hones := h.1
  have htens : (10 * tens + ones) / 10 = tens := by omega
  have hrest : (10 * tens + ones) % 10 = ones := by omega
  rw [← hrest] at h
  exact ⟨c, by rw [htens], h⟩

/-- A number of two digits is written in ASCII if its digits are ASCII. -/
theorem eq_paddedDigits_two_iff {n : Nat} (hn : n ≤ 99) :
    s = paddedDigits 2 n ↔ InTwoDigits n s ∧ AsciiDigits s := by
  have hpadded : paddedDigits 2 n = [Nat.digitChar (n / 10), Nat.digitChar (n % 10)] := by
    have htens : n / 10 % 10 = n / 10 := by omega
    simp [paddedDigits, htens]
  constructor
  · rintro rfl
    exact ⟨⟨_, hpadded, isScriptDigit_digitChar (by omega)⟩, asciiDigits_paddedDigits 2 n⟩
  · rintro ⟨⟨c, rfl, hc⟩, hascii⟩
    have hdigit : c.isDigit = true := hascii c (by simp) (isAnyDigit_iff.mpr ⟨_, hc⟩)
    rw [hpadded, ← hc.eq_digitChar hdigit]

/-- The characters of a moment that are not digits. -/
def marks : List Char := ['-', 'T', ' ', ':', '.', '+', 'Z']

/-- No mark between numbers is a digit of any script. -/
theorem isAnyDigit_of_mem_marks (h : c ∈ marks) : isAnyDigit c = false := by
  have hmarks : marks.all (fun c => !isAnyDigit c) = true := by decide
  simpa using List.all_eq_true.mp hmarks c h

/-- So a mark has no part in whether the digits of a text are ASCII. -/
theorem asciiDigits_mark_cons (h : c ∈ marks) : AsciiDigits (c :: s) ↔ AsciiDigits s := by
  simp [isAnyDigit_of_mem_marks h]

/-- A date is written in ASCII digits. -/
theorem asciiDigits_dateChars (year month day : Nat) :
    AsciiDigits (dateChars year month day) := by
  have hmark : '-' ∈ marks := by decide
  simp only [dateChars, asciiDigits_append, asciiDigits_mark_cons hmark, asciiDigits_paddedDigits,
    and_true]

/-! ## The notation -/

/-- How the numbers of a time are written: the hour of a day, a sixtieth of an hour or of a
minute, and a digit of a fraction. -/
structure TimeWriting where
  hour : List Char → Prop
  sixtieth : List Char → Prop
  digit : Char → Prop

namespace TimeWriting

/-- In two ASCII digits. -/
def ascii : TimeWriting where
  hour cs := ∃ n ≤ 23, cs = paddedDigits 2 n
  sixtieth cs := ∃ n ≤ 59, cs = paddedDigits 2 n
  digit c := c.isDigit = true

/-- In two digits, of which the second may be of any script, but not after a twenty, where it
is one of four. -/
def anyScript : TimeWriting where
  hour cs := ∃ n ≤ 23, InTwoDigits n cs ∧ (20 ≤ n → AsciiDigits cs)
  sixtieth cs := ∃ n ≤ 59, InTwoDigits n cs
  digit c := ∃ digit, IsScriptDigit digit c

/-- A fraction of a second: none, or a point and at least one digit. -/
inductive Fraction (w : TimeWriting) : List Char → Prop
  | none : w.Fraction []
  | some {digits : List Char} (hne : digits ≠ []) (hdigits : ∀ c ∈ digits, w.digit c) :
      w.Fraction ('.' :: digits)

/-- The seconds of a time, if they are told, and only then a fraction. -/
inductive Seconds (w : TimeWriting) : List Char → Prop
  | none : w.Seconds []
  | some {ss fraction : List Char} (hseconds : w.sixtieth ss) (hfraction : w.Fraction fraction) :
      w.Seconds (':' :: (ss ++ fraction))

/-- Hours and minutes, with something between them. -/
inductive Clock (w : TimeWriting) (between : List Char) : List Char → Prop
  | mk {hh mm : List Char} (hhour : w.hour hh) (hminute : w.sixtieth mm) :
      w.Clock between (hh ++ (between ++ mm))

/-- Where a time holds: nothing is said, or at the prime meridian, or so many hours and minutes
away from it. -/
inductive Zone (w : TimeWriting) : List Char → Prop
  | none : w.Zone []
  | utc : w.Zone ['Z']
  | offset {sign : Char} {clock : List Char} (hsign : sign = '+' ∨ sign = '-')
      (hclock : w.Clock [] clock ∨ w.Clock [':'] clock) : w.Zone (sign :: clock)

/-- A time of a day. -/
inductive IsTime (w : TimeWriting) : List Char → Prop
  | mk {clock seconds zone : List Char} (hclock : w.Clock [':'] clock)
      (hseconds : w.Seconds seconds) (hzone : w.Zone zone) : w.IsTime (clock ++ (seconds ++ zone))

/-- A day of the calendar and a time of it. -/
inductive IsMoment (w : TimeWriting) : List Char → Prop
  | mk {year month day : Nat} {mark : Char} {time : List Char}
      (hday : IsCalendarDay year month day) (hmark : mark = 'T' ∨ mark = ' ')
      (htime : w.IsTime time) : w.IsMoment (dateChars year month day ++ mark :: time)

/-! ### The two ways of writing -/

/-- An hour in ASCII is one in any script whose digits are ASCII. -/
theorem ascii_hour_iff : ascii.hour s ↔ anyScript.hour s ∧ AsciiDigits s := by
  constructor
  · rintro ⟨n, hn, hs⟩
    obtain ⟨hwritten, hascii⟩ := (eq_paddedDigits_two_iff (by omega)).mp hs
    exact ⟨⟨n, hn, hwritten, fun _ => hascii⟩, hascii⟩
  · rintro ⟨⟨n, hn, hwritten, -⟩, hascii⟩
    exact ⟨n, hn, (eq_paddedDigits_two_iff (by omega)).mpr ⟨hwritten, hascii⟩⟩

/-- The same for minutes and seconds. -/
theorem ascii_sixtieth_iff : ascii.sixtieth s ↔ anyScript.sixtieth s ∧ AsciiDigits s := by
  constructor
  · rintro ⟨n, hn, hs⟩
    obtain ⟨hwritten, hascii⟩ := (eq_paddedDigits_two_iff (by omega)).mp hs
    exact ⟨⟨n, hn, hwritten⟩, hascii⟩
  · rintro ⟨⟨n, hn, hwritten⟩, hascii⟩
    exact ⟨n, hn, (eq_paddedDigits_two_iff (by omega)).mpr ⟨hwritten, hascii⟩⟩

/-- The same for fractions of a second. -/
theorem ascii_fraction_iff : ascii.Fraction s ↔ anyScript.Fraction s ∧ AsciiDigits s := by
  have hpoint : '.' ∈ marks := by decide
  constructor
  · intro h
    cases h with
    | none => exact ⟨.none, asciiDigits_nil⟩
    | some hne hdigits =>
        refine ⟨.some hne fun c hc => ?_, ?_⟩
        · exact isAnyDigit_iff.mp (isAnyDigit_of_isDigit (hdigits c hc))
        · exact (asciiDigits_mark_cons hpoint).mpr fun c hc _ => hdigits c hc
  · rintro ⟨h, hascii⟩
    cases h with
    | none => exact .none
    | some hne hdigits =>
        have hascii := (asciiDigits_mark_cons hpoint).mp hascii
        exact .some hne fun c hc => hascii c hc (isAnyDigit_iff.mpr (hdigits c hc))

/-- So for seconds with or without a fraction. -/
theorem ascii_seconds_iff : ascii.Seconds s ↔ anyScript.Seconds s ∧ AsciiDigits s := by
  have hcolon : ':' ∈ marks := by decide
  constructor
  · intro h
    cases h with
    | none => exact ⟨.none, asciiDigits_nil⟩
    | some hseconds hfraction =>
        obtain ⟨hseconds, hss⟩ := ascii_sixtieth_iff.mp hseconds
        obtain ⟨hfraction, hrest⟩ := ascii_fraction_iff.mp hfraction
        exact ⟨.some hseconds hfraction,
          (asciiDigits_mark_cons hcolon).mpr (asciiDigits_append.mpr ⟨hss, hrest⟩)⟩
  · rintro ⟨h, hascii⟩
    cases h with
    | none => exact .none
    | some hseconds hfraction =>
        obtain ⟨hss, hrest⟩ := asciiDigits_append.mp ((asciiDigits_mark_cons hcolon).mp hascii)
        exact .some (ascii_sixtieth_iff.mpr ⟨hseconds, hss⟩)
          (ascii_fraction_iff.mpr ⟨hfraction, hrest⟩)

/-- So for hours and minutes with a mark between them. -/
theorem ascii_clock_iff {between : List Char} (hbetween : ∀ c ∈ between, c ∈ marks) :
    ascii.Clock between s ↔ anyScript.Clock between s ∧ AsciiDigits s := by
  have hdigits : AsciiDigits between := fun c hc hdigit => by
    simp [isAnyDigit_of_mem_marks (hbetween c hc)] at hdigit
  constructor
  · rintro ⟨hhour, hminute⟩
    obtain ⟨hhour, hhh⟩ := ascii_hour_iff.mp hhour
    obtain ⟨hminute, hmm⟩ := ascii_sixtieth_iff.mp hminute
    exact ⟨⟨hhour, hminute⟩,
      asciiDigits_append.mpr ⟨hhh, asciiDigits_append.mpr ⟨hdigits, hmm⟩⟩⟩
  · rintro ⟨⟨hhour, hminute⟩, hascii⟩
    obtain ⟨hhh, hrest⟩ := asciiDigits_append.mp hascii
    obtain ⟨-, hmm⟩ := asciiDigits_append.mp hrest
    exact ⟨ascii_hour_iff.mpr ⟨hhour, hhh⟩, ascii_sixtieth_iff.mpr ⟨hminute, hmm⟩⟩

/-- The sign of a zone is a mark. -/
theorem mem_marks_of_sign {sign : Char} (h : sign = '+' ∨ sign = '-') : sign ∈ marks := by
  rcases h with rfl | rfl <;> decide

/-- So for zones. -/
theorem ascii_zone_iff : ascii.Zone s ↔ anyScript.Zone s ∧ AsciiDigits s := by
  have hplain {clock : List Char} :
      ascii.Clock [] clock ↔ anyScript.Clock [] clock ∧ AsciiDigits clock :=
    ascii_clock_iff nofun
  have hmarked {clock : List Char} :
      ascii.Clock [':'] clock ↔ anyScript.Clock [':'] clock ∧ AsciiDigits clock :=
    ascii_clock_iff (List.forall_mem_singleton.mpr (by decide))
  constructor
  · intro h
    cases h with
    | none => exact ⟨.none, asciiDigits_nil⟩
    | utc => exact ⟨.utc, (asciiDigits_mark_cons (by decide)).mpr asciiDigits_nil⟩
    | offset hsign hclock =>
        rw [hplain, hmarked, ← or_and_right] at hclock
        exact ⟨.offset hsign hclock.1,
          (asciiDigits_mark_cons (mem_marks_of_sign hsign)).mpr hclock.2⟩
  · rintro ⟨h, hascii⟩
    cases h with
    | none => exact .none
    | utc => exact .utc
    | offset hsign hclock =>
        have hdigits := (asciiDigits_mark_cons (mem_marks_of_sign hsign)).mp hascii
        refine .offset hsign ?_
        rw [hplain, hmarked, ← or_and_right]
        exact ⟨hclock, hdigits⟩

/-- And so for times of day. -/
theorem ascii_isTime_iff : ascii.IsTime s ↔ anyScript.IsTime s ∧ AsciiDigits s := by
  have hbetween : ∀ c ∈ [':'], c ∈ marks := List.forall_mem_singleton.mpr (by decide)
  constructor
  · rintro ⟨hclock, hseconds, hzone⟩
    obtain ⟨hclock, hfront⟩ := (ascii_clock_iff hbetween).mp hclock
    obtain ⟨hseconds, hmiddle⟩ := ascii_seconds_iff.mp hseconds
    obtain ⟨hzone, hback⟩ := ascii_zone_iff.mp hzone
    exact ⟨⟨hclock, hseconds, hzone⟩,
      asciiDigits_append.mpr ⟨hfront, asciiDigits_append.mpr ⟨hmiddle, hback⟩⟩⟩
  · rintro ⟨⟨hclock, hseconds, hzone⟩, hascii⟩
    obtain ⟨hfront, hrest⟩ := asciiDigits_append.mp hascii
    obtain ⟨hmiddle, hback⟩ := asciiDigits_append.mp hrest
    exact ⟨(ascii_clock_iff hbetween).mpr ⟨hclock, hfront⟩,
      ascii_seconds_iff.mpr ⟨hseconds, hmiddle⟩, ascii_zone_iff.mpr ⟨hzone, hback⟩⟩

/-- The moments in ISO notation are those whose digits are all of ASCII. -/
theorem ascii_isMoment_iff : ascii.IsMoment s ↔ anyScript.IsMoment s ∧ AsciiDigits s := by
  have hmarks {mark : Char} (h : mark = 'T' ∨ mark = ' ') : mark ∈ marks := by
    rcases h with rfl | rfl <;> decide
  constructor
  · rintro ⟨hday, hmark, htime⟩
    obtain ⟨htime, hdigits⟩ := ascii_isTime_iff.mp htime
    exact ⟨⟨hday, hmark, htime⟩, asciiDigits_append.mpr
      ⟨asciiDigits_dateChars _ _ _, (asciiDigits_mark_cons (hmarks hmark)).mpr hdigits⟩⟩
  · rintro ⟨⟨hday, hmark, htime⟩, hascii⟩
    obtain ⟨-, hrest⟩ := asciiDigits_append.mp hascii
    exact ⟨hday, hmark,
      ascii_isTime_iff.mpr ⟨htime, (asciiDigits_mark_cons (hmarks hmark)).mp hrest⟩⟩

end TimeWriting

/-! ## Moments in text -/

open TimeWriting

/-- Two digits of a minute or a second: the tens are ASCII and at most five. -/
theorem isSixtieth_iff : isSixtieth a b = true ↔
    (∃ tens ≤ 5, a = Nat.digitChar tens) ∧ ∃ ones, IsScriptDigit ones b := by
  have hbound : ('5' : Char) = Nat.digitChar 5 := rfl
  simp only [isSixtieth, Bool.and_eq_true, decide_eq_true_eq, isAnyDigit_iff, hbound,
    le_digitChar_iff (by decide : 5 ≤ 9)]

/-- Two digits of an hour: the tens are ASCII, and so are the ones after a two. -/
theorem isHour_iff : isHour a b = true ↔
    ((∃ tens ≤ 1, a = Nat.digitChar tens) ∧ ∃ ones, IsScriptDigit ones b) ∨
      a = Nat.digitChar 2 ∧ ∃ ones ≤ 3, b = Nat.digitChar ones := by
  have hbound : ('3' : Char) = Nat.digitChar 3 := rfl
  have htens : (a = '0' ∨ a = '1') ↔ ∃ tens ≤ 1, a = Nat.digitChar tens := by
    simp [Nat.le_one_iff_eq_zero_or_eq_one, Nat.digitChar]
  simp only [isHour, Bool.and_eq_true, Bool.or_eq_true, decide_eq_true_eq, isAnyDigit_iff, hbound,
    and_assoc, le_digitChar_iff (by decide : 3 ≤ 9), htens]
  rfl

/-- These are the minutes and seconds that are written in any script. -/
theorem anyScript_sixtieth_iff :
    anyScript.sixtieth s ↔ ∃ a b, s = [a, b] ∧ isSixtieth a b = true := by
  simp only [isSixtieth_iff]
  constructor
  · rintro ⟨n, hn, c, rfl, hc⟩
    exact ⟨_, c, rfl, ⟨n / 10, by omega, rfl⟩, n % 10, hc⟩
  · rintro ⟨_, b, rfl, ⟨tens, htens, rfl⟩, ones, hones⟩
    have hlast := hones.1
    exact ⟨10 * tens + ones, by omega, inTwoDigits hones⟩

/-- These are the hours. -/
theorem anyScript_hour_iff : anyScript.hour s ↔ ∃ a b, s = [a, b] ∧ isHour a b = true := by
  simp only [isHour_iff]
  constructor
  · rintro ⟨n, hn, ⟨c, rfl, hc⟩, hascii⟩
    -- After a two the second digit is compared with a bound, so it has to be known by its code.
    by_cases htwenty : 20 ≤ n
    · have hdigit : c.isDigit = true :=
        hascii htwenty c (by simp) (isAnyDigit_iff.mpr ⟨_, hc⟩)
      have htens : n / 10 = 2 := by omega
      rw [htens]
      exact ⟨_, c, rfl, .inr ⟨rfl, n % 10, by omega, hc.eq_digitChar hdigit⟩⟩
    · exact ⟨_, c, rfl, .inl ⟨⟨n / 10, by omega, rfl⟩, n % 10, hc⟩⟩
  · rintro ⟨a, b, rfl, ⟨⟨tens, htens, rfl⟩, ones, hones⟩ | ⟨rfl, ones, hones, rfl⟩⟩
    · have hlast := hones.1
      exact ⟨10 * tens + ones, by omega, inTwoDigits hones, by omega⟩
    · have htwo := isDigit_digitChar (by decide : 2 ≤ 9)
      have hlast := isDigit_digitChar (by omega : ones ≤ 9)
      exact ⟨10 * 2 + ones, by omega, inTwoDigits (isScriptDigit_digitChar (by omega)),
        fun _ => by simp [htwo, hlast]⟩

/-- Hours and minutes are four such digits with a mark between them. -/
theorem anyScript_clock_iff {between : List Char} : anyScript.Clock between s ↔
    ∃ a b c d, s = a :: b :: (between ++ [c, d]) ∧ isHour a b = true ∧ isSixtieth c d = true := by
  constructor
  · rintro ⟨hhour, hminute⟩
    obtain ⟨a, b, rfl, hab⟩ := anyScript_hour_iff.mp hhour
    obtain ⟨c, d, rfl, hcd⟩ := anyScript_sixtieth_iff.mp hminute
    exact ⟨a, b, c, d, rfl, hab, hcd⟩
  · rintro ⟨a, b, c, d, rfl, hab, hcd⟩
    have hhour := anyScript_hour_iff.mpr ⟨a, b, rfl, hab⟩
    have hminute := anyScript_sixtieth_iff.mpr ⟨c, d, rfl, hcd⟩
    exact .mk hhour hminute

/-- A clock is taken off the front of a text exactly if one stands there. -/
theorem afterClock?_eq_some_iff : afterClock? s = some rest ↔
    ∃ clock, anyScript.Clock [':'] clock ∧ s = clock ++ rest := by
  constructor
  · intro h
    unfold afterClock? at h
    split at h
    · rename_i a b c d after
      obtain ⟨hclock, rfl⟩ : (isHour a b = true ∧ isSixtieth c d = true) ∧ after = rest := by
        simpa using h
      exact ⟨[a, b, ':', c, d], anyScript_clock_iff.mpr ⟨a, b, c, d, rfl, hclock⟩, rfl⟩
    · cases h
  · rintro ⟨clock, hclock, rfl⟩
    obtain ⟨a, b, c, d, rfl, hhour, hminute⟩ := anyScript_clock_iff.mp hclock
    simp [afterClock?, hhour, hminute]

/-- Zones are told by what is written. -/
theorem isZone_iff : isZone s = true ↔ anyScript.Zone s := by
  constructor
  · intro h
    unfold isZone at h
    split at h
    · exact .none
    · exact .utc
    · rename_i sign a b c d
      simp only [Bool.and_eq_true, Bool.or_eq_true, decide_eq_true_eq] at h
      obtain ⟨⟨hsign, hhour⟩, hminute⟩ := h
      exact .offset hsign (.inl (anyScript_clock_iff.mpr ⟨a, b, c, d, rfl, hhour, hminute⟩))
    · rename_i sign a b c d
      simp only [Bool.and_eq_true, Bool.or_eq_true, decide_eq_true_eq] at h
      obtain ⟨⟨hsign, hhour⟩, hminute⟩ := h
      exact .offset hsign (.inr (anyScript_clock_iff.mpr ⟨a, b, c, d, rfl, hhour, hminute⟩))
    · cases h
  · intro h
    cases h with
    | none => rfl
    | utc => rfl
    | offset hsign hclock =>
        rcases hclock with hclock | hclock
        · obtain ⟨a, b, c, d, rfl, hhour, hminute⟩ := anyScript_clock_iff.mp hclock
          simp [isZone, hsign, hhour, hminute]
        · obtain ⟨a, b, c, d, rfl, hhour, hminute⟩ := anyScript_clock_iff.mp hclock
          simp [isZone, hsign, hhour, hminute]

/-- The text goes on neither with seconds nor with a fraction nor with a digit.  Seconds and
fractions are taken as far as they go, so where one ends is only known before such a text. -/
def NoSeconds (s : List Char) : Prop :=
  ∀ c after, s = c :: after → c ≠ ':' ∧ c ≠ '.' ∧ isAnyDigit c = false

/-- A zone does not begin as seconds do. -/
theorem noSeconds_of_zone (h : anyScript.Zone s) : NoSeconds s := by
  intro c after hs
  subst hs
  cases h with
  | utc => decide
  | offset hsign => rcases hsign with rfl | rfl <;> decide

/-- What is taken off as a fraction is one, or nothing. -/
theorem afterFraction?_sound (h : afterFraction? s = some rest) :
    ∃ fraction, anyScript.Fraction fraction ∧ s = fraction ++ rest := by
  unfold afterFraction? at h
  split at h
  · rename_i c after
    split at h
    · rename_i hc
      cases h
      refine ⟨'.' :: c :: after.takeWhile isAnyDigit, .some nofun ?_, ?_⟩
      · refine List.forall_mem_cons.mpr ⟨isAnyDigit_iff.mp hc, fun e he => ?_⟩
        exact isAnyDigit_iff.mp (List.all_eq_true.mp List.all_takeWhile e he)
      · simp
    · cases h
  · cases h
  · cases h
    exact ⟨[], .none, rfl⟩

/-- A fraction is taken off as far as its digits go. -/
theorem afterFraction?_append (h : anyScript.Fraction s) (hrest : NoSeconds rest) :
    afterFraction? (s ++ rest) = some rest := by
  cases h with
  | none =>
      cases rest with
      | nil => rfl
      | cons c after =>
          have hc := (hrest c after rfl).2.1
          unfold afterFraction?
          split <;> simp_all
  | @some digits hne hdigits =>
      obtain ⟨c, others, rfl⟩ := List.exists_cons_of_ne_nil hne
      obtain ⟨hc, hothers⟩ := List.forall_mem_cons.mp hdigits
      have hends : rest.dropWhile isAnyDigit = rest := by
        cases rest with
        | nil => rfl
        | cons c after => simp [(hrest c after rfl).2.2]
      have hdropped : (others ++ rest).dropWhile isAnyDigit = rest := by
        rw [List.dropWhile_append_of_pos fun e he => isAnyDigit_iff.mpr (hothers e he), hends]
      simp [afterFraction?, isAnyDigit_iff.mpr hc, hdropped]

/-- What is taken off as seconds is seconds, or nothing. -/
theorem afterSeconds?_sound (h : afterSeconds? s = some rest) :
    ∃ seconds, anyScript.Seconds seconds ∧ s = seconds ++ rest := by
  unfold afterSeconds? at h
  split at h
  · rename_i a b after
    split at h
    · rename_i hss
      obtain ⟨fraction, hfraction, rfl⟩ := afterFraction?_sound h
      exact ⟨_, .some (anyScript_sixtieth_iff.mpr ⟨a, b, rfl, hss⟩) hfraction, rfl⟩
    · cases h
  · cases h
  · cases h
    exact ⟨[], .none, rfl⟩

/-- Seconds are taken off with their fraction. -/
theorem afterSeconds?_append (h : anyScript.Seconds s) (hrest : NoSeconds rest) :
    afterSeconds? (s ++ rest) = some rest := by
  cases h with
  | none =>
      cases rest with
      | nil => rfl
      | cons c after =>
          have hc := (hrest c after rfl).1
          unfold afterSeconds?
          split <;> simp_all
  | some hseconds hfraction =>
      obtain ⟨a, b, rfl, hss⟩ := anyScript_sixtieth_iff.mp hseconds
      simp [afterSeconds?, hss, afterFraction?_append hfraction hrest]

/-- A text tells a time of day exactly if it is one that is written in any script. -/
theorem isTimeText_iff : isTimeText s = true ↔ anyScript.IsTime s := by
  constructor
  · intro h
    unfold isTimeText at h
    split at h
    · rename_i zone hzone
      obtain ⟨after, hafterClock, hafterSeconds⟩ := Option.bind_eq_some_iff.mp hzone
      obtain ⟨clock, hclock, rfl⟩ := afterClock?_eq_some_iff.mp hafterClock
      obtain ⟨seconds, hseconds, rfl⟩ := afterSeconds?_sound hafterSeconds
      exact .mk hclock hseconds (isZone_iff.mp h)
    · cases h
  · rintro ⟨hclock, hseconds, hzone⟩
    rw [isTimeText, afterClock?_eq_some_iff.mpr ⟨_, hclock, rfl⟩, Option.bind_some,
      afterSeconds?_append hseconds (noSeconds_of_zone hzone)]
    exact isZone_iff.mpr hzone

/-- A text is recognised as a moment exactly if a date stands at its head and a mark and a time
are left of it. -/
theorem isDateTimeText_iff_parts : isDateTimeText s = true ↔ ∃ mark time,
    afterDate? s = some (mark :: time) ∧ (mark = 'T' ∨ mark = ' ') ∧ anyScript.IsTime time := by
  unfold isDateTimeText
  split
  next mark time heq => simp [heq, isTimeText_iff]
  next hother =>
    constructor
    · intro h
      cases h
    · intro h
      obtain ⟨mark, time, heq, _⟩ := h
      exact absurd heq (hother mark time)

/-- A text is recognised as a moment exactly if it is one in digits of any script. -/
theorem isDateTimeText_iff : isDateTimeText s = true ↔ anyScript.IsMoment s := by
  rw [isDateTimeText_iff_parts]
  constructor
  · intro h
    obtain ⟨mark, time, hdate, hmark, htime⟩ := h
    obtain ⟨year, month, day, hday, rfl⟩ := afterDate?_eq_some_iff.mp hdate
    exact .mk hday hmark htime
  · intro h
    obtain ⟨hday, hmark, htime⟩ := h
    exact ⟨_, _, afterDate?_eq_some_iff.mpr ⟨_, _, _, hday, rfl⟩, hmark, htime⟩

/-- A date-time constraint passes the texts that are moments in digits of any script. -/
theorem dateTime_check_eq_none_iff [PatternEngine] {message : Option String} {v : Value} :
    (Constraint.dateTime message).check v = none ↔
      ∃ s, v = .text (String.ofList s) ∧ anyScript.IsMoment s := by
  rw [Constraint.check_eq_none_iff]
  cases v with
  | text text =>
      have hfault : (Constraint.dateTime message).fault? (.text text) = none ↔
          isDateTimeText text.toList = true := by
        simp [Constraint.fault?]
      rw [hfault, isDateTimeText_iff]
      simp only [Value.text.injEq, ← String.toList_inj, String.toList_ofList, exists_eq_left']
  | _ => simp [Constraint.fault?]

/-- **A date-time constraint passes the moments, and the ISO ones are those in ASCII digits.**
The values that pass are the texts in which a day of the calendar is followed by a time, where
the second digits of the numbers of the time and the digits of its fraction may be of any
script.  A text in ISO notation passes, and what passes is in ISO notation exactly if it has no
digits but those of ASCII. -/
theorem moments_are_iso_iff_ascii [PatternEngine] (message : Option String) (v : Value) :
    ((Constraint.dateTime message).check v = none ↔
      ∃ s, v = .text (String.ofList s) ∧ anyScript.IsMoment s) ∧
    ((∃ s, v = .text (String.ofList s) ∧ ascii.IsMoment s) ↔
      (Constraint.dateTime message).check v = none ∧
        ∃ s, v = .text (String.ofList s) ∧ AsciiDigits s) := by
  refine ⟨dateTime_check_eq_none_iff, ?_⟩
  rw [dateTime_check_eq_none_iff]
  constructor
  · rintro ⟨s, rfl, hmoment⟩
    obtain ⟨hmoment, hascii⟩ := ascii_isMoment_iff.mp hmoment
    exact ⟨⟨s, rfl, hmoment⟩, s, rfl, hascii⟩
  · rintro ⟨⟨s, rfl, hmoment⟩, t, ht, hascii⟩
    obtain rfl : s = t := String.ofList_injective (Value.text.inj ht)
    exact ⟨s, rfl, ascii_isMoment_iff.mpr ⟨hmoment, hascii⟩⟩

/-- An hour whose second digit is an Arabic one passes and is not in ISO notation. -/
theorem arabic_hour_passes :
    (Constraint.dateTime none).check (.text "2024-02-29T1\u0663:30") = none ∧
      ¬ ∃ s, Value.text "2024-02-29T1\u0663:30" = .text (String.ofList s) ∧ ascii.IsMoment s := by
  constructor
  · decide
  · rintro ⟨s, hs, h⟩
    have hascii := (ascii_isMoment_iff.mp h).2
    obtain rfl : s = "2024-02-29T1\u0663:30".toList := by
      rw [Value.text.inj hs, String.toList_ofList]
    exact absurd (hascii '\u0663' (by decide) (by decide)) (by decide)

end Formwork
