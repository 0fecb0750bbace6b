import Formwork.Proofs.Constraint.Moments
import Formwork.Proofs.Pattern.Parts

/-!
# The shapes of text as patterns

Addresses, dates and moments are recognised without an engine for patterns.  What they are is
given by four patterns all the same, and here they are held against them: the built-in engine
finds a pattern in exactly the texts that the recogniser accepts.

* `matchPattern?_emailPattern`, `matchPattern?_urlPattern` — addresses;
* `isDateText_iff_pattern`, `isDateTimeText_iff_pattern` — dates and moments, of which the
  pattern is one half and the calendar the other: year, month and day have to be numbers, which
  takes digits of ASCII, and the month has to have that day.
-/

namespace Formwork

namespace Shapes

open Pattern Pattern.Matcher
open CharClass (contains_anyDigit contains_blankOr contains_complement contains_normalize
  contains_oneOf contains_single contains_upTo proper_blank proper_blankOr)

variable {ranges : CharClass} {a b c d : Char} {s t : List Char} {rest : List Matcher}

/-! ## Mail addresses -/

/-- A name, the sign and a host with a dot inside. -/
def emailPattern : String := "^[^\\s@]+@[^\\s@]+\\.[^\\s@]+$"

/-- What is written there. -/
def emailNode : Node :=
  let part : Node := .repetition
    (.bracketed true (.union [.letter .blank false, .literal ⟨'@', false⟩])) 1 none
  .concat [.assertion .lineStart, part, .char '@', part, .char '.', part, .assertion .lineEnd]

/-- Characters of a name or a host. -/
def mailPart : Matcher := .repeated (.one (CharClass.blankOr ['@']).normalize.complement) 1 none

/-- What is to follow the start of a text. -/
def emailMatcher : Matcher := inRow [mailPart, char '@', mailPart, char '.', mailPart, textEnd]

/-- At least one character, and all of them such as a mail address has. -/
def IsMailPart (run : List Char) : Prop := run ≠ [] ∧ ∀ c ∈ run, isMailChar c = true

/-- A name, the sign, and a host with a dot inside. -/
def IsMailAddress (s : List Char) : Prop := ∃ name front back, IsMailPart name ∧
  IsMailPart front ∧ IsMailPart back ∧ s = name ++ '@' :: (front ++ '.' :: back)

/-- A part of a mail address takes one or more of its characters. -/
theorem takes_mailPart : mailPart.Takes s t ↔ ∃ run, s = run ++ t ∧ IsMailPart run := by
  have hclass (c : Char) :
      (CharClass.blankOr ['@']).normalize.complement.contains c = isMailChar c := by
    rw [contains_complement (proper_blankOr _).normalize, contains_normalize, contains_blankOr]
    simp [isMailChar]
  rw [mailPart, takes_many]
  simp only [hclass, IsMailPart]

/-- The pattern takes mail addresses as a whole. -/
theorem takes_emailMatcher : emailMatcher.Takes s t ↔ t = [] ∧ IsMailAddress s := by
  simp only [emailMatcher, takes_inRow_cons, takes_inRow_nil, takes_mailPart, takes_char,
    takes_textEnd]
  constructor
  · intro h
    obtain ⟨_, ⟨name, rfl, hname⟩, _, rfl, _, ⟨front, rfl, hfront⟩, _, rfl, _,
      ⟨back, rfl, hback⟩, _, ⟨rfl, rfl⟩, rfl⟩ := h
    rw [List.append_nil]
    exact ⟨rfl, name, front, back, hname, hfront, hback, rfl⟩
  · intro h
    obtain ⟨rfl, name, front, back, hname, hfront, hback, rfl⟩ := h
    exact ⟨_, ⟨name, rfl, hname⟩, _, rfl, _, ⟨front, rfl, hfront⟩, _, rfl, _,
      ⟨back, (List.append_nil back).symm, hback⟩, _, ⟨rfl, rfl⟩, rfl⟩

/-- A dot inside stays inside. -/
theorem hasInnerDot_cons (h : hasInnerDot s = true) : hasInnerDot (a :: s) = true := by
  cases s with
  | nil => cases h
  | cons c rest =>
      unfold hasInnerDot
      split
      · rfl
      next _ heq =>
        cases heq
        exact h
      next hother => exact absurd rfl (hother a c rest)

/-- A dot inside is one with characters on both sides. -/
theorem hasInnerDot_iff : hasInnerDot s = true ↔
    ∃ front back, front ≠ [] ∧ back ≠ [] ∧ s = front ++ '.' :: back := by
  constructor
  · intro h
    induction s using hasInnerDot.induct with
    | case1 c d rest => exact ⟨[c], d :: rest, nofun, nofun, rfl⟩
    | case2 a c rest hother ih =>
        rw [hasInnerDot.eq_2 _ _ _ hother] at h
        obtain ⟨front, back, _, hback, heq⟩ := ih h
        exact ⟨a :: front, back, nofun, hback, by rw [heq]; rfl⟩
    | case3 s hfirst hsecond =>
        rw [hasInnerDot.eq_3 s hfirst hsecond] at h
        cases h
  · intro h
    obtain ⟨front, back, hfront, hback, rfl⟩ := h
    obtain ⟨d, others, rfl⟩ := List.exists_cons_of_ne_nil hback
    induction front with
    | nil => exact absurd rfl hfront
    | cons c front ih =>
        cases front with
        | nil => rfl
        | cons e front => exact hasInnerDot_cons (ih nofun)

/-- What is recognised as a mail address is one. -/
theorem isEmailText_iff : isEmailText s = true ↔ IsMailAddress s := by
  have hdot : isMailChar '.' = true := by decide
  have hsign : isMailChar '@' = false := by decide
  constructor
  · intro h
    unfold isEmailText at h
    split at h
    next host hhost =>
      simp only [Bool.and_eq_true, Bool.not_eq_true', List.isEmpty_eq_false_iff,
        List.all_eq_true] at h
      obtain ⟨⟨hname, hchars⟩, hinner⟩ := h
      obtain ⟨front, back, hfront, hback, rfl⟩ := hasInnerDot_iff.mp hinner
      obtain ⟨hfrontChars, hbackChars⟩ := List.forall_mem_append.mp hchars
      refine ⟨s.takeWhile isMailChar, front, back,
        ⟨hname, List.all_eq_true.mp List.all_takeWhile⟩, ⟨hfront, hfrontChars⟩,
        ⟨hback, (List.forall_mem_cons.mp hbackChars).2⟩, ?_⟩
      rw [← hhost, List.takeWhile_append_dropWhile]
    next => cases h
  · intro h
    obtain ⟨name, front, back, ⟨hne, hname⟩, ⟨hfront, hfrontChars⟩, ⟨hback, hbackChars⟩, rfl⟩ := h
    have hinner : hasInnerDot (front ++ '.' :: back) = true :=
      hasInnerDot_iff.mpr ⟨front, back, hfront, hback, rfl⟩
    have hchars : ∀ c ∈ front ++ '.' :: back, isMailChar c = true :=
      List.forall_mem_append.mpr ⟨hfrontChars, List.forall_mem_cons.mpr ⟨hdot, hbackChars⟩⟩
    rw [isEmailText, List.takeWhile_append_of_pos hname, List.dropWhile_append_of_pos hname,
      List.takeWhile_cons_of_neg (Bool.eq_false_iff.mp hsign),
      List.dropWhile_cons_of_neg (Bool.eq_false_iff.mp hsign), List.append_nil]
    simp [hne, hinner, List.all_eq_true.mpr hchars]

/-- **Mail addresses.**  A text is recognised as a mail address exactly if it matches the
pattern of one. -/
theorem matchPattern?_emailPattern (text : String) :
    matchPattern? emailPattern text = some (isEmailText text.toList) := by
  have hnode : Node.ofText? emailPattern = some emailNode := by decide +kernel
  have hm : emailNode.matcher? {} = some (.seq textStart emailMatcher, {}) := by rfl
  have hroom : emailMatcher.room + 32 ≤ roomLimit := by
    have hclass : classRoom (CharClass.blankOr ['@']).normalize.complement ≤ 1000 :=
      (classRoom_complement_le (CharClass.length_normalize_le _)).trans (by decide)
    have hpart : mailPart.room ≤ 1064 := room_repeated_le (Nat.le_refl 1) hclass
    have hrow : emailMatcher.room ≤ 6 * 1064 + 32 :=
      room_inRow_le (by simp [hpart, room_char_le, room_textEnd_le])
    exact (Nat.add_le_add_right hrow 32).trans (by decide)
  refine (matchPattern?_eq_some_iff hnode hm hroom ?_ text).mpr ?_
  · simp [emailMatcher, mailPart, char, textEnd, inRow, IsForward]
  · simp only [isEmailText_iff, takes_emailMatcher, exists_and_right, exists_eq, true_and]

/-! ## Web addresses -/

/-- A scheme, a character of a host, and no blanks. -/
def urlPattern : String := "^https?://[^\\s/$.?#][^\\s]*$"

/-- What is written there. -/
def urlNode : Node :=
  let first : ClassSet := .union [.letter .blank false, .literal ⟨'/', false⟩,
    .literal ⟨'$', false⟩, .literal ⟨'.', false⟩, .literal ⟨'?', false⟩, .literal ⟨'#', false⟩]
  .concat [.assertion .lineStart, .char 'h', .char 't', .char 't', .char 'p',
    .repetition (.char 's') 0 (some 1), .char ':', .char '/', .char '/', .bracketed true first,
    .repetition (.bracketed true (.letter .blank false)) 0 none, .assertion .lineEnd]

/-- What a host does not start with, apart from blanks. -/
def hostMarks : List Char := ['/', '$', '.', '?', '#']

/-- What is to follow the start of a text. -/
def urlMatcher : Matcher := inRow [char 'h', char 't', char 't', char 'p',
  .repeated (char 's') 0 (some 1), char ':', char '/', char '/',
  .one (CharClass.blankOr hostMarks).normalize.complement,
  .repeated (.one CharClass.blank.complement) 0 none, textEnd]

/-- A scheme, a first character of a host, and more characters without a blank. -/
def IsWebAddress (s : List Char) : Prop := ∃ c host, afterScheme? s = some (c :: host) ∧
  (isBlank c = false ∧ c ∉ hostMarks) ∧ ∀ d ∈ host, isBlank d = false

/-- A web address begins with one of two schemes. -/
theorem afterScheme?_eq_some_iff : afterScheme? s = some t ↔
    s = 'h' :: 't' :: 't' :: 'p' :: ':' :: '/' :: '/' :: t ∨
      s = 'h' :: 't' :: 't' :: 'p' :: 's' :: ':' :: '/' :: '/' :: t := by
  constructor
  · intro h
    unfold afterScheme? at h
    split at h
    · exact Or.inl (by rw [Option.some.inj h])
    · exact Or.inr (by rw [Option.some.inj h])
    · cases h
  · intro h
    rcases h with rfl | rfl <;> rfl

/-- What is recognised as a web address is one. -/
theorem isUrlText_iff : isUrlText s = true ↔ IsWebAddress s := by
  unfold isUrlText
  split
  next c host heq => simp [IsWebAddress, heq, hostMarks]
  next hother =>
    constructor
    · nofun
    · intro h
      obtain ⟨c, host, heq, _⟩ := h
      exact absurd heq (hother c host)

/-- The pattern takes web addresses as a whole. -/
theorem takes_urlMatcher : urlMatcher.Takes s t ↔ t = [] ∧ IsWebAddress s := by
  have hfirst (c : Char) : (CharClass.blankOr hostMarks).normalize.complement.contains c = true ↔
      isBlank c = false ∧ c ∉ hostMarks := by
    rw [contains_complement (proper_blankOr _).normalize, contains_normalize,
      contains_blankOr]
    simp
  have hother (d : Char) : CharClass.blank.complement.contains d = true ↔ isBlank d = false := by
    rw [contains_complement proper_blank, isBlank, Bool.not_eq_true']
  simp only [urlMatcher, takes_inRow_cons, takes_inRow_nil, takes_char, takes_optional, takes_one,
    takes_repeated_one, takes_textEnd, hfirst, hother, IsWebAddress, afterScheme?_eq_some_iff]
  constructor
  · intro h
    obtain ⟨_, rfl, _, rfl, _, rfl, _, rfl, _, hscheme, _, rfl, _, rfl, _, rfl, _, ⟨c, rfl, hc⟩, _,
      ⟨host, rfl, hhost, _⟩, _, ⟨rfl, rfl⟩, rfl⟩ := h
    rw [List.append_nil] at hscheme
    refine ⟨rfl, c, host, ?_, hc, hhost⟩
    rcases hscheme with rfl | rfl
    · exact Or.inl rfl
    · exact Or.inr rfl
  · intro h
    obtain ⟨rfl, c, host, hscheme, hc, hhost⟩ := h
    have hopen : ∀ most, none = some most → host.length ≤ most := by simp
    rcases hscheme with rfl | rfl
    · exact ⟨_, rfl, _, rfl, _, rfl, _, rfl, _, Or.inl rfl, _, rfl, _, rfl, _, rfl, _,
        ⟨c, rfl, hc⟩, _, ⟨host, (List.append_nil host).symm, hhost, Nat.zero_le _, hopen⟩, _,
        ⟨rfl, rfl⟩, rfl⟩
    · exact ⟨_, rfl, _, rfl, _, rfl, _, rfl, _, Or.inr rfl, _, rfl, _, rfl, _, rfl, _,
        ⟨c, rfl, hc⟩, _, ⟨host, (List.append_nil host).symm, hhost, Nat.zero_le _, hopen⟩, _,
        ⟨rfl, rfl⟩, rfl⟩

/-- **Web addresses.**  A text is recognised as a web address exactly if it matches the pattern
of one. -/
theorem matchPattern?_urlPattern (text : String) :
    matchPattern? urlPattern text = some (isUrlText text.toList) := by
  have hnode : Node.ofText? urlPattern = some urlNode := by decide +kernel
  have hm : urlNode.matcher? {} = some (.seq textStart urlMatcher, {}) := by rfl
  have hroom : urlMatcher.room + 32 ≤ roomLimit := by
    have hscheme : (repeated (char 's') 0 (some 1)).room ≤ 2000 :=
      room_optional_le (room_char_le (by decide : 128 ≤ 1936))
    have hfirst : (Matcher.one (CharClass.blankOr hostMarks).normalize.complement).room ≤ 2000 :=
      (classRoom_complement_le (CharClass.length_normalize_le _)).trans (by decide)
    have hclass : (Matcher.one CharClass.blank.complement).room ≤ 1900 :=
      (classRoom_complement_le (Nat.le_refl _)).trans (by decide)
    have hother : (repeated (.one CharClass.blank.complement) 0 none).room ≤ 2000 :=
      (room_repeated_le (Nat.zero_le 1) hclass).trans (by decide)
    have hrow : urlMatcher.room ≤ 11 * 2000 + 32 :=
      room_inRow_le (by simp [hscheme, hfirst, hother, room_char_le, room_textEnd_le])
    exact (Nat.add_le_add_right hrow 32).trans (by decide)
  refine (matchPattern?_eq_some_iff hnode hm hroom ?_ text).mpr ?_
  · simp [urlMatcher, char, textEnd, inRow, IsForward]
  · simp only [isUrlText_iff, takes_urlMatcher, exists_and_right, exists_eq, true_and]

/-! ## Dates -/

/-- A year, a month and a day, each in so many digits. -/
def datePattern : String := "^(\\d\x7b4\x7d)-(0[1-9]|1[0-2])-(0[1-9]|[12]\\d|3[01])$"

/-- What is written there but for the start and the end, as in the pattern of moments too. -/
def dateParts : List Node :=
  [.group [] (.repetition .digit 4 (some 4)), .char '-',
    .group [] (.alternation [.concat [.char '0', .upTo '1' '9'],
      .concat [.char '1', .upTo '0' '2']]), .char '-',
    .group [] (.alternation [.concat [.char '0', .upTo '1' '9'],
      .concat [.oneOf '1' '2', .digit], .concat [.char '3', .oneOf '0' '1']])]

def dateNode : Node := .concat (.assertion .lineStart :: (dateParts ++ [.assertion .lineEnd]))

/-- A month in two digits. -/
def month : Matcher :=
  anyOf [inRow [char '0', .one (.upTo '1' '9')], inRow [char '1', .one (.upTo '0' '2')]]

/-- A day of some month in two digits. -/
def day : Matcher :=
  anyOf [inRow [char '0', .one (.upTo '1' '9')], inRow [.one (.oneOf '1' '2'), digit],
    inRow [char '3', .one (.oneOf '0' '1')]]

def dateRow : List Matcher := [.repeated digit 4 (some 4), char '-', month, char '-', day]

def dateMatcher : Matcher := inRow (dateRow ++ [textEnd])

/-- The year, the month and the day that stand at the head of a text are numbers, and the month
has that day. -/
structure HasDay (s : List Char) : Prop where
  isDigit : ∀ c ∈ s.take 4 ++ (s.drop 5).take 2 ++ (s.drop 8).take 2, c.isDigit = true
  le_days : digitsValue ((s.drop 8).take 2) ≤
    daysInMonth (digitsValue (s.take 4)) (digitsValue ((s.drop 5).take 2))

/-- Two digits as the pattern has them for a month. -/
def IsMonth (m n : Char) : Prop := (m = '0' ∧ '1' ≤ n ∧ n ≤ '9') ∨ (m = '1' ∧ '0' ≤ n ∧ n ≤ '2')

/-- Two digits as the pattern has them for a day. -/
def IsDay (x y : Char) : Prop := (x = '0' ∧ '1' ≤ y ∧ y ≤ '9') ∨
  ((x = '1' ∨ x = '2') ∧ isAnyDigit y = true) ∨ (x = '3' ∧ (y = '0' ∨ y = '1'))

/-- One character of a class and then one of another. -/
theorem takes_pair {first second : CharClass} :
    (inRow [.one first, .one second]).Takes s t ↔
      ∃ c d, s = c :: d :: t ∧ first.contains c = true ∧ second.contains d = true := by
  rw [takes_one_cons]
  simp only [takes_one_cons, takes_inRow_nil]
  constructor
  · intro h
    obtain ⟨c, _, rfl, hc, d, _, rfl, hd, rfl⟩ := h
    exact ⟨c, d, rfl, hc, hd⟩
  · intro h
    obtain ⟨c, d, rfl, hc, hd⟩ := h
    exact ⟨c, _, rfl, hc, d, _, rfl, hd, rfl⟩

/-- The pattern of a month takes its two digits. -/
theorem takes_month : month.Takes s t ↔ ∃ m n, s = m :: n :: t ∧ IsMonth m n := by
  simp only [month, char, takes_anyOf, List.mem_cons, List.not_mem_nil, or_false,
    exists_eq_or_imp, exists_eq_left, takes_pair, contains_upTo, contains_single,
    decide_eq_true_eq, ← exists_or, ← and_or_left, IsMonth]

/-- The pattern of a day takes its two digits. -/
theorem takes_day : day.Takes s t ↔ ∃ x y, s = x :: y :: t ∧ IsDay x y := by
  simp only [day, char, digit, takes_anyOf, List.mem_cons, List.not_mem_nil, or_false,
    exists_eq_or_imp, exists_eq_left, takes_pair, contains_upTo, contains_oneOf,
    contains_anyDigit, contains_single, decide_eq_true_eq, ← exists_or, ← and_or_left,
    IsDay]

/-- The row of a date takes a year, a month and a day with marks between them. -/
theorem takes_dateRow : (inRow dateRow).Takes s t ↔ ∃ a b c d m n x y,
    s = a :: b :: c :: d :: '-' :: m :: n :: '-' :: x :: y :: t ∧
      (∀ e ∈ [a, b, c, d], isAnyDigit e = true) ∧ IsMonth m n ∧ IsDay x y := by
  simp only [dateRow, digit, takes_inRow_cons, takes_inRow_nil, takes_repeated_one, takes_char,
    takes_month, takes_day, contains_anyDigit]
  constructor
  · intro h
    obtain ⟨_, ⟨year, rfl, hyear, hleast, hmost⟩, _, rfl, _, ⟨m, n, rfl, hmonth⟩, _, rfl, _,
      ⟨x, y, rfl, hday⟩, rfl⟩ := h
    have hlength : year.length = 4 := Nat.le_antisymm (hmost 4 rfl) hleast
    obtain ⟨a, b, c, d, rfl⟩ := List.length_eq_four.mp hlength
    exact ⟨a, b, c, d, m, n, x, y, rfl, hyear, hmonth, hday⟩
  · intro h
    obtain ⟨a, b, c, d, m, n, x, y, rfl, hyear, hmonth, hday⟩ := h
    exact ⟨_, ⟨[a, b, c, d], rfl, hyear, Nat.le_refl 4, fun k hk => by simp [← Option.some.inj hk]⟩,
      _, rfl, _, ⟨m, n, rfl, hmonth⟩, _, rfl, _, ⟨x, y, rfl, hday⟩, rfl⟩

/-- Two digits come to ten times the first and the second. -/
theorem digitsValue_pair (a b : Char) :
    digitsValue [a, b] = 10 * (a.toNat - 48) + (b.toNat - 48) := by
  have hfirst : digitsValue [a] = a.toNat - 48 :=
    (digitsValue_snoc [] a).trans (Nat.zero_add _)
  have hboth := digitsValue_snoc [a] b
  rwa [hfirst] at hboth

/-- In ASCII digits the pattern has the months from 1 to 12. -/
theorem isMonth_iff (ha : a.isDigit = true) (hb : b.isDigit = true) :
    IsMonth a b ↔ 1 ≤ digitsValue [a, b] ∧ digitsValue [a, b] ≤ 12 := by
  rw [isDigit_iff_code] at ha hb
  simp only [IsMonth, digitsValue_pair, ← Char.toNat_inj, CharClass.le_iff_code, Char.reduceToNat]
  omega

/-- In ASCII digits the pattern has the days from 1 to 31. -/
theorem isDay_iff (ha : a.isDigit = true) (hb : b.isDigit = true) :
    IsDay a b ↔ 1 ≤ digitsValue [a, b] ∧ digitsValue [a, b] ≤ 31 := by
  have hany := isAnyDigit_of_isDigit hb
  rw [isDigit_iff_code] at ha hb
  simp only [IsDay, hany, and_true, digitsValue_pair, ← Char.toNat_inj, CharClass.le_iff_code,
    Char.reduceToNat]
  omega

/-- What is recognised as a date at the head of a text is what the pattern takes off, with a day
that the month has. -/
theorem afterDate?_eq_some_iff_takes :
    afterDate? s = some t ↔ (inRow dateRow).Takes s t ∧ HasDay s := by
  rw [takes_dateRow]
  constructor
  · intro h
    obtain ⟨a, b, c, d, m, n, x, y, after, rfl⟩ := exists_chars_of_afterDate? h
    obtain ⟨hdigits, hcalendar, rfl⟩ := afterDate?_chars_eq_some_iff.mp h
    obtain ⟨_, hmonthLow, hmonthHigh, hdayLow, hdayHigh⟩ := isCalendarDay_iff.mp hcalendar
    obtain ⟨hfront, hdayDigits⟩ := List.forall_mem_append.mp hdigits
    obtain ⟨hyearDigits, hmonthDigits⟩ := List.forall_mem_append.mp hfront
    have hmonth : IsMonth m n :=
      (isMonth_iff (hmonthDigits m (by simp)) (hmonthDigits n (by simp))).mpr
        ⟨hmonthLow, hmonthHigh⟩
    have hday : IsDay x y := (isDay_iff (hdayDigits x (by simp)) (hdayDigits y (by simp))).mpr
      ⟨hdayLow, hdayHigh.trans (daysInMonth_le _ _)⟩
    exact ⟨⟨a, b, c, d, m, n, x, y, rfl, fun e he => isAnyDigit_of_isDigit (hyearDigits e he),
      hmonth, hday⟩, hdigits, hdayHigh⟩
  · intro h
    obtain ⟨⟨a, b, c, d, m, n, x, y, rfl, _, hmonth, hday⟩, hhead⟩ := h
    have hdigits : ∀ e ∈ [a, b, c, d] ++ [m, n] ++ [x, y], e.isDigit = true := hhead.isDigit
    obtain ⟨hfront, hdayDigits⟩ := List.forall_mem_append.mp hdigits
    obtain ⟨hyearDigits, hmonthDigits⟩ := List.forall_mem_append.mp hfront
    have hmonth := (isMonth_iff (hmonthDigits m (by simp)) (hmonthDigits n (by simp))).mp hmonth
    have hday := (isDay_iff (hdayDigits x (by simp)) (hdayDigits y (by simp))).mp hday
    have hyear : digitsValue [a, b, c, d] < 10 ^ 4 := digitsValue_lt hyearDigits
    exact afterDate?_chars_eq_some_iff.mpr ⟨hdigits, isCalendarDay_iff.mpr
      ⟨Nat.le_of_lt_succ hyear, hmonth.1, hmonth.2, hday.1, hhead.le_days⟩, rfl⟩

/-- Two parts that are one character each. -/
theorem room_pair_le {first second : Matcher} (hfirst : first.room ≤ 6000)
    (hsecond : second.room ≤ 6000) : (inRow [first, second]).room ≤ 13000 := by
  have hrow : (inRow [first, second]).room ≤ 2 * 6000 + 32 :=
    room_inRow_le (by simp [hfirst, hsecond])
  exact hrow.trans (by decide)

/-- No part of a date needs more room than this. -/
theorem room_dateRow_le {room : Nat} (h : 40000 ≤ room) : ∀ m ∈ dateRow, m.room ≤ room := by
  have hyear : (repeated digit 4 (some 4)).room ≤ 40000 := by decide
  have hmonth : month.room ≤ 40000 := by
    have hpairs : month.room ≤ 2 * (13000 + 32) + 32 :=
      room_anyOf_le (by simp [room_pair_le, room_char_le, room_upTo_le])
    exact hpairs.trans (by decide)
  have hday : day.room ≤ 40000 := by
    have hpairs : day.room ≤ 3 * (13000 + 32) + 32 :=
      room_anyOf_le (by
        simp [room_pair_le, room_char_le, room_upTo_le, room_oneOf_le, room_digit_le])
    exact hpairs.trans (by decide)
  intro m hm
  refine Nat.le_trans ?_ h
  revert m
  simp [dateRow, hyear, hmonth, hday, room_char_le]

/-- **Dates.**  A text is recognised as a date exactly if it matches the pattern of one and has
a day of the calendar. -/
theorem isDateText_iff_pattern (text : String) : isDateText text.toList = true ↔
    matchPattern? datePattern text = some true ∧ HasDay text.toList := by
  have hnode : Node.ofText? datePattern = some dateNode := by decide +kernel
  have hm : dateNode.matcher? {} = some (.seq textStart dateMatcher, {}) := by rfl
  have hroom : dateMatcher.room + 32 ≤ roomLimit := by
    have hrow : dateMatcher.room ≤ 6 * 40000 + 32 :=
      room_inRow_le (List.forall_mem_append.mpr ⟨room_dateRow_le (by decide),
        List.forall_mem_singleton.mpr (room_textEnd_le (by decide))⟩)
    exact (Nat.add_le_add_right hrow 32).trans (by decide)
  have hforward : dateMatcher.IsForward := by
    simp [dateMatcher, dateRow, month, day, char, digit, textEnd, inRow, anyOf, IsForward]
  rw [matchPattern?_eq_some_iff hnode hm hroom hforward]
  simp only [isDateText, beq_iff_eq, afterDate?_eq_some_iff_takes, dateMatcher, takes_inRow_append,
    takes_inRow_cons, takes_inRow_nil, takes_textEnd]
  simp

/-! ## Moments -/

/-- A date, and then a time in digits of any script. -/
def dateTimePattern : String :=
  "^(\\d\x7b4\x7d)-(0[1-9]|1[0-2])-(0[1-9]|[12]\\d|3[01])[T ]([01]\\d|2[0-3]):[0-5]\\d" ++
    "(:[0-5]\\d(\\.\\d+)?)?(Z|[+-]([01]\\d|2[0-3]):?[0-5]\\d)?$"

/-- What is written there after the date. -/
def timeParts : List Node :=
  let hour : Node := .group []
    (.alternation [.concat [.oneOf '0' '1', .digit], .concat [.char '2', .upTo '0' '3']])
  let fraction : Node := .group [] (.concat [.char '.', .repetition .digit 1 none])
  let seconds : Node := .group []
    (.concat [.char ':', .upTo '0' '5', .digit, .repetition fraction 0 (some 1)])
  let zone : Node := .group [] (.alternation [.char 'Z', .concat [.oneOf '+' '-', hour,
    .repetition (.char ':') 0 (some 1), .upTo '0' '5', .digit]])
  [.oneOf 'T' ' ', hour, .char ':', .upTo '0' '5', .digit, .repetition seconds 0 (some 1),
    .repetition zone 0 (some 1)]

def dateTimeNode : Node :=
  .concat (.assertion .lineStart :: (dateParts ++ timeParts ++ [.assertion .lineEnd]))

/-- An hour in two digits. -/
def hour : Matcher :=
  anyOf [inRow [.one (.oneOf '0' '1'), digit], inRow [char '2', .one (.upTo '0' '3')]]

/-- A fraction of a second, if there is one. -/
def fraction : Matcher := .repeated (inRow [char '.', .repeated digit 1 none]) 0 (some 1)

/-- The seconds with their fraction, if they are told. -/
def seconds : Matcher :=
  .repeated (inRow [char ':', .one (.upTo '0' '5'), digit, fraction]) 0 (some 1)

/-- `Z` or an offset, if there is one. -/
def zone : Matcher :=
  .repeated (anyOf [char 'Z', inRow [.one (.oneOf '+' '-'), hour,
    .repeated (char ':') 0 (some 1), .one (.upTo '0' '5'), digit]]) 0 (some 1)

def timeRow : List Matcher :=
  [hour, char ':', .one (.upTo '0' '5'), digit, seconds, zone, textEnd]

def dateTimeMatcher : Matcher := inRow (dateRow ++ .one (.oneOf 'T' ' ') :: timeRow)

/-- The pattern of an hour takes its two digits. -/
theorem takes_hour : hour.Takes s t ↔ ∃ a b, s = a :: b :: t ∧ isHour a b = true := by
  simp only [hour, char, digit, takes_anyOf, List.mem_cons, List.not_mem_nil, or_false,
    exists_eq_or_imp, exists_eq_left, takes_pair, contains_upTo, contains_oneOf,
    contains_anyDigit, contains_single, decide_eq_true_eq, ← exists_or, ← and_or_left,
    isHour, Bool.and_eq_true, Bool.or_eq_true, and_assoc]

/-- The pattern of a minute or a second takes its two digits. -/
theorem takes_sixtieth_cons : (inRow (.one (.upTo '0' '5') :: digit :: rest)).Takes s t ↔
    ∃ a b u, s = a :: b :: u ∧ isSixtieth a b = true ∧ (inRow rest).Takes u t := by
  simp only [digit, takes_one_cons, contains_upTo, contains_anyDigit, isSixtieth, Bool.and_eq_true,
    decide_eq_true_eq]
  constructor
  · intro h
    obtain ⟨a, _, rfl, ha, b, u, rfl, hb, hrest⟩ := h
    exact ⟨a, b, u, rfl, ⟨ha, hb⟩, hrest⟩
  · intro h
    obtain ⟨a, b, u, rfl, ⟨ha, hb⟩, hrest⟩ := h
    exact ⟨a, _, rfl, ha, b, u, rfl, hb, hrest⟩

open TimeWriting (anyScript)

/-- The pattern of a fraction takes one. -/
theorem takes_fraction : fraction.Takes s t ↔
    ∃ digits, anyScript.Fraction digits ∧ s = digits ++ t := by
  simp only [fraction, digit, takes_optional, takes_inRow_cons, takes_inRow_nil, takes_char,
    takes_many, contains_anyDigit, isAnyDigit_iff]
  constructor
  · intro h
    rcases h with rfl | h
    · exact ⟨[], .none, rfl⟩
    · obtain ⟨_, rfl, _, ⟨digits, rfl, hne, hdigits⟩, rfl⟩ := h
      exact ⟨'.' :: digits, .some hne hdigits, rfl⟩
  · intro h
    obtain ⟨_, hfraction, rfl⟩ := h
    cases hfraction with
    | none => exact Or.inl rfl
    | some hne hdigits => exact Or.inr ⟨_, rfl, _, ⟨_, rfl, hne, hdigits⟩, rfl⟩

/-- The pattern of seconds takes these, with or without a fraction. -/
theorem takes_seconds : seconds.Takes s t ↔
    ∃ text, anyScript.Seconds text ∧ s = text ++ t := by
  simp only [seconds, takes_optional, takes_char_cons, takes_sixtieth_cons,
    takes_inRow_cons (m := fraction), takes_inRow_nil, takes_fraction]
  constructor
  · intro h
    rcases h with rfl | h
    · exact ⟨[], .none, rfl⟩
    · obtain ⟨_, rfl, a, b, _, rfl, hab, _, ⟨digits, hdigits, rfl⟩, rfl⟩ := h
      exact ⟨_, .some (anyScript_sixtieth_iff.mpr ⟨a, b, rfl, hab⟩) hdigits, rfl⟩
  · intro h
    obtain ⟨_, hseconds, rfl⟩ := h
    cases hseconds with
    | none => exact Or.inl rfl
    | some hss hdigits =>
        obtain ⟨a, b, rfl, hab⟩ := anyScript_sixtieth_iff.mp hss
        exact Or.inr ⟨_, rfl, a, b, _, rfl, hab, _, ⟨_, hdigits, rfl⟩, rfl⟩

/-- The hours and minutes of an offset, with a colon between them or not. -/
theorem takes_offset : (inRow [hour, .repeated (char ':') 0 (some 1), .one (.upTo '0' '5'),
    digit]).Takes s t ↔
      ∃ clock, (anyScript.Clock [] clock ∨ anyScript.Clock [':'] clock) ∧ s = clock ++ t := by
  simp only [takes_inRow_cons (m := hour), takes_inRow_cons (m := .repeated _ _ _),
    takes_optional, takes_char, takes_hour, takes_sixtieth_cons, takes_inRow_nil,
    anyScript_clock_iff]
  constructor
  · intro h
    obtain ⟨_, ⟨a, b, rfl, hhour⟩, _, hcolon, c, d, _, rfl, hminute, rfl⟩ := h
    rcases hcolon with rfl | rfl
    · exact ⟨[a, b, c, d], Or.inl ⟨a, b, c, d, rfl, hhour, hminute⟩, rfl⟩
    · exact ⟨[a, b, ':', c, d], Or.inr ⟨a, b, c, d, rfl, hhour, hminute⟩, rfl⟩
  · intro h
    obtain ⟨_, ⟨a, b, c, d, rfl, hhour, hminute⟩ | ⟨a, b, c, d, rfl, hhour, hminute⟩, rfl⟩ := h
    · exact ⟨_, ⟨a, b, rfl, hhour⟩, _, Or.inl rfl, c, d, _, rfl, hminute, rfl⟩
    · exact ⟨_, ⟨a, b, rfl, hhour⟩, _, Or.inr rfl, c, d, _, rfl, hminute, rfl⟩

/-- The pattern of a zone takes one. -/
theorem takes_zone : zone.Takes s t ↔ ∃ text, anyScript.Zone text ∧ s = text ++ t := by
  simp only [zone, takes_optional, takes_anyOf, List.mem_cons, List.not_mem_nil, or_false,
    exists_eq_or_imp, exists_eq_left, takes_char, takes_one_cons, contains_oneOf, takes_offset]
  constructor
  · intro h
    rcases h with rfl | rfl | h
    · exact ⟨[], .none, rfl⟩
    · exact ⟨['Z'], .utc, rfl⟩
    · obtain ⟨sign, _, rfl, hsign, clock, hclock, rfl⟩ := h
      exact ⟨sign :: clock, .offset hsign hclock, rfl⟩
  · intro h
    obtain ⟨_, hzone, rfl⟩ := h
    cases hzone with
    | none => exact Or.inl rfl
    | utc => exact Or.inr (Or.inl rfl)
    | offset hsign hclock => exact Or.inr (Or.inr ⟨_, _, rfl, hsign, _, hclock, rfl⟩)

/-- So the row of a time of day takes such a time, and nothing may come after it. -/
theorem takes_timeRow : (inRow timeRow).Takes s t ↔ t = [] ∧ anyScript.IsTime s := by
  simp only [timeRow, takes_inRow_cons (m := hour), takes_char_cons, takes_sixtieth_cons,
    takes_inRow_cons (m := seconds), takes_inRow_cons (m := zone), takes_inRow_cons (m := textEnd),
    takes_inRow_nil, takes_hour, takes_seconds, takes_zone, takes_textEnd]
  constructor
  · intro h
    obtain ⟨_, ⟨a, b, rfl, hhour⟩, _, rfl, c, d, _, rfl, hminute, _, ⟨ss, hseconds, rfl⟩, _,
      ⟨sign, hzone, rfl⟩, _, ⟨rfl, rfl⟩, rfl⟩ := h
    rw [List.append_nil]
    exact ⟨rfl, .mk (anyScript_clock_iff.mpr ⟨a, b, c, d, rfl, hhour, hminute⟩) hseconds hzone⟩
  · intro h
    obtain ⟨rfl, hclock, hseconds, hzone⟩ := h
    obtain ⟨a, b, c, d, rfl, hhour, hminute⟩ := anyScript_clock_iff.mp hclock
    exact ⟨_, ⟨a, b, rfl, hhour⟩, _, rfl, c, d, _, rfl, hminute, _, ⟨_, hseconds, rfl⟩, _,
      ⟨_, hzone, (List.append_nil _).symm⟩, _, ⟨rfl, rfl⟩, rfl⟩

/-- No part of a time of day needs more room than this. -/
theorem room_timeRow_le : ∀ m ∈ timeRow, m.room ≤ 500000 := by
  have hhour : hour.room ≤ 40000 := by
    have hpairs : hour.room ≤ 2 * (13000 + 32) + 32 :=
      room_anyOf_le (by
        simp [room_pair_le, room_char_le, room_upTo_le, room_oneOf_le, room_digit_le])
    exact hpairs.trans (by decide)
  have hfraction : fraction.room ≤ 20000 := by
    have hdigits : (repeated digit 1 none).room ≤ 7000 := by decide
    have hrow : (inRow [char '.', .repeated digit 1 none]).room ≤ 2 * 7000 + 32 :=
      room_inRow_le (by simp [hdigits, room_char_le])
    exact (room_optional_le hrow).trans (by decide)
  have hseconds : seconds.room ≤ 500000 := by
    have hrow : (inRow [char ':', .one (.upTo '0' '5'), digit, fraction]).room ≤ 4 * 20000 + 32 :=
      room_inRow_le (by simp [hfraction, room_char_le, room_upTo_le, room_digit_le])
    exact (room_optional_le hrow).trans (by decide)
  have hzone : zone.room ≤ 500000 := by
    have hcolon : (repeated (char ':') 0 (some 1)).room ≤ 40000 :=
      (room_optional_le (room_char_le (Nat.le_refl 128))).trans (by decide)
    have hrow : (inRow [.one (.oneOf '+' '-'), hour, .repeated (char ':') 0 (some 1),
        .one (.upTo '0' '5'), digit]).room ≤ 5 * 40000 + 32 :=
      room_inRow_le (by
        simp [hhour, hcolon, room_oneOf_le, room_upTo_le, room_digit_le])
    have hbranches : (anyOf [char 'Z', inRow [.one (.oneOf '+' '-'), hour,
        .repeated (char ':') 0 (some 1), .one (.upTo '0' '5'), digit]]).room ≤
          2 * (5 * 40000 + 32 + 32) + 32 :=
      room_anyOf_le (List.forall_mem_cons.mpr
        ⟨room_char_le (by decide), List.forall_mem_singleton.mpr hrow⟩)
    exact (room_optional_le hbranches).trans (by decide)
  simp [timeRow, hhour.trans, hseconds, hzone, room_char_le, room_upTo_le, room_digit_le,
    room_textEnd_le]

/-- **Moments.**  A text is recognised as a moment exactly if it matches the pattern of one and
has a day of the calendar. -/
theorem isDateTimeText_iff_pattern (text : String) : isDateTimeText text.toList = true ↔
    matchPattern? dateTimePattern text = some true ∧ HasDay text.toList := by
  have hnode : Node.ofText? dateTimePattern = some dateTimeNode := by decide +kernel
  have hm : dateTimeNode.matcher? {} = some (.seq textStart dateTimeMatcher, {}) := by rfl
  have hroom : dateTimeMatcher.room + 32 ≤ roomLimit := by
    have hrow : dateTimeMatcher.room ≤ 13 * 500000 + 32 :=
      room_inRow_le (List.forall_mem_append.mpr ⟨room_dateRow_le (by decide),
        List.forall_mem_cons.mpr ⟨room_oneOf_le (by decide), room_timeRow_le⟩⟩)
    exact (Nat.add_le_add_right hrow 32).trans (by decide)
  have hforward : dateTimeMatcher.IsForward := by
    simp [dateTimeMatcher, dateRow, month, day, timeRow, hour, seconds, fraction, zone, char, digit,
      textEnd, inRow, anyOf, IsForward]
  rw [matchPattern?_eq_some_iff hnode hm hroom hforward, isDateTimeText_iff_parts]
  simp only [afterDate?_eq_some_iff_takes, dateTimeMatcher, takes_inRow_append, takes_one_cons,
    contains_oneOf, takes_timeRow, true_iff]
  constructor
  · intro h
    obtain ⟨mark, time, ⟨hdate, hday⟩, hmark, htime⟩ := h
    exact ⟨⟨[], mark :: time, hdate, mark, time, rfl, hmark, rfl, htime⟩, hday⟩
  · intro h
    obtain ⟨⟨_, _, hdate, mark, time, rfl, hmark, _, htime⟩, hday⟩ := h
    exact ⟨mark, time, ⟨hdate, hday⟩, hmark, htime⟩

end Shapes

end Formwork
