import Formwork.Json.Printer
import Formwork.Json.Reader
import Mathlib.Data.List.TakeWhile

/-!
# Written numbers

A numeral ends where something stands that no numeral can go on with, so what follows it in
a text does not change what is read.  An integer of the format reads back as it is.  Of a
binary64 number this is not always so, since the reader does not round to the nearest one;
the numbers of which it is are those that read back (`Binary64.ReadsBack`).

* `JsonNumeral.read?_append` — a numeral is read up to the text that ends it;
* `Numeric.Writable` — the numbers that a text can carry;
* `JsonNumeral.read?_chars` — a number that a text can carry is read as itself.
-/

namespace Formwork

namespace JsonNumeral

/-- No numeral goes on with this text. -/
def Ends (rest : List Char) : Prop :=
  ∀ c ∈ rest.head?, c.isDigit = false ∧ c ≠ '.' ∧ c ≠ 'e' ∧ c ≠ 'E'

theorem ends_nil : Ends [] := nofun

/-- A character that cannot go on with a numeral ends it. -/
theorem ends_cons {c : Char} {rest : List Char}
    (h : c.isDigit = false ∧ c ≠ '.' ∧ c ≠ 'e' ∧ c ≠ 'E') : Ends (c :: rest) := by
  intro d hd
  obtain rfl : c = d := by simpa using hd
  exact h

section Followed

variable {s r ds rest : List Char}

/-- What ends a numeral does not begin with a digit. -/
theorem takeWhile_isDigit_of_ends (h : Ends rest) : rest.takeWhile Char.isDigit = [] := by
  cases rest with
  | nil => rfl
  | cons c rest => simp [(h c rfl).1]

/-- So no digits are dropped from it. -/
theorem dropWhile_isDigit_of_ends (h : Ends rest) : rest.dropWhile Char.isDigit = rest := by
  cases rest with
  | nil => rfl
  | cons c rest => simp [(h c rfl).1]

/-- Digits are taken as far as they go, and there must be one. -/
theorem takeDigits?_eq_some_iff : takeDigits? s = some (ds, r) ↔
    s.takeWhile Char.isDigit = ds ∧ ds ≠ [] ∧ s.dropWhile Char.isDigit = r := by
  unfold takeDigits?
  cases s.takeWhile Char.isDigit <;> grind

/-- The same digits are taken if what ends a numeral comes after them. -/
theorem takeDigits?_append (h : takeDigits? s = some (ds, r)) (hrest : Ends rest) :
    takeDigits? (s ++ rest) = some (ds, r ++ rest) := by
  obtain ⟨hds, hne, hr⟩ := takeDigits?_eq_some_iff.mp h
  refine takeDigits?_eq_some_iff.mpr ⟨?_, hne, ?_⟩
  · rw [List.takeWhile_append, takeWhile_isDigit_of_ends hrest]
    split
    · rename_i hall
      rw [List.append_nil, ← hds]
      exact ((List.takeWhile_sublist _).eq_of_length hall).symm
    · exact hds
  · rw [List.dropWhile_append, dropWhile_isDigit_of_ends hrest, hr]
    cases r <;> rfl

/-- Digits that something ends are taken all. -/
theorem takeDigits?_digits (hds : ∀ c ∈ ds, c.isDigit = true) (hne : ds ≠ [])
    (hrest : Ends rest) : takeDigits? (ds ++ rest) = some (ds, rest) := by
  refine takeDigits?_append (r := []) (takeDigits?_eq_some_iff.mpr ⟨?_, hne, ?_⟩) hrest
  · exact List.takeWhile_eq_self_iff.mpr hds
  · exact List.dropWhile_eq_nil_iff.mpr hds

/-- The same whole part is taken if what ends a numeral comes after it. -/
theorem takeWhole?_append (h : takeWhole? s = some (ds, r)) (hrest : Ends rest) :
    takeWhole? (s ++ rest) = some (ds, r ++ rest) := by
  unfold takeWhole? at h ⊢
  split at h
  · cases h
  · rename_i hzero
    rw [takeDigits?_append h hrest]
    split
    · rename_i heq
      obtain ⟨rfl, _⟩ := Prod.mk.inj (Option.some.inj heq)
      exact absurd h (hzero _ _ _)
    · rfl

/-- What ends a numeral has no fraction. -/
theorem takeFraction?_of_ends (hrest : Ends rest) : takeFraction? rest = some (none, rest) := by
  unfold takeFraction?
  split
  · exact absurd rfl (hrest '.' rfl).2.1
  · rfl

/-- Nor has it an exponent. -/
theorem takeExponent?_of_ends (hrest : Ends rest) : takeExponent? rest = some (none, rest) := by
  cases rest with
  | nil => rfl
  | cons c rest =>
      obtain ⟨_, _, he, hE⟩ := hrest c rfl
      simp [takeExponent?, he, hE]

/-- The same fraction is taken if what ends a numeral comes after it. -/
theorem takeFraction?_append {fraction : Option (List Char)}
    (h : takeFraction? s = some (fraction, r)) (hrest : Ends rest) :
    takeFraction? (s ++ rest) = some (fraction, r ++ rest) := by
  unfold takeFraction? at h
  split at h
  · obtain ⟨⟨ds, r'⟩, htake, heq⟩ := Option.map_eq_some_iff.mp h
    obtain ⟨rfl, rfl⟩ := Prod.mk.inj heq
    simp [takeFraction?, takeDigits?_append htake hrest]
  · rename_i hpoint
    obtain ⟨rfl, rfl⟩ := Prod.mk.inj (Option.some.inj h)
    cases s with
    | nil => exact takeFraction?_of_ends hrest
    | cons c s =>
        unfold takeFraction?
        split
        · rename_i heq
          obtain ⟨rfl, _⟩ := List.cons.inj heq
          exact absurd rfl (hpoint s)
        · rfl

/-- A sign stands at the very beginning, whatever comes after. -/
theorem takeSign_append (hs : s ≠ []) : Binary64.takeSign (s ++ rest) =
    ((Binary64.takeSign s).1, (Binary64.takeSign s).2 ++ rest) := by
  cases s with
  | nil => exact absurd rfl hs
  | cons c s =>
      unfold Binary64.takeSign
      split <;> simp_all

/-- The same exponent is taken if what ends a numeral comes after it. -/
theorem takeExponent?_append {exponent : Option (Bool × List Char)}
    (h : takeExponent? s = some (exponent, r)) (hrest : Ends rest) :
    takeExponent? (s ++ rest) = some (exponent, r ++ rest) := by
  cases s with
  | nil =>
      obtain ⟨rfl, rfl⟩ := Prod.mk.inj (Option.some.inj h)
      exact takeExponent?_of_ends hrest
  | cons c s =>
      rw [takeExponent?] at h
      rw [List.cons_append, takeExponent?]
      split at h
      · rename_i hmark
        replace h : (takeDigits? (Binary64.takeSign s).2).map (fun x =>
            (some ((Binary64.takeSign s).1, x.1), x.2)) = some (exponent, r) := h
        obtain ⟨⟨ds, r'⟩, htake, heq⟩ := Option.map_eq_some_iff.mp h
        obtain ⟨rfl, rfl⟩ := Prod.mk.inj heq
        have hs : s ≠ [] := by
          rintro rfl
          simp [Binary64.takeSign, takeDigits?] at htake
        simp [hmark, takeSign_append hs, takeDigits?_append htake hrest]
      · rename_i hmark
        obtain ⟨rfl, rfl⟩ := Prod.mk.inj (Option.some.inj h)
        simp [hmark]

/-- Reads the parts of a numeral after its sign. -/
def unsigned? (negative : Bool) (s : List Char) : Option (JsonNumeral × List Char) := do
  let (whole, s) ← takeWhole? s
  let (fraction, s) ← takeFraction? s
  let (exponent, s) ← takeExponent? s
  return (⟨negative, whole, fraction, exponent⟩, s)

theorem read?_minus : read? ('-' :: s) = unsigned? true s := rfl

/-- A numeral that begins with anything else is not negative. -/
theorem read?_of_ne_minus (h : s.head? ≠ some '-') : read? s = unsigned? false s := by
  cases s with
  | nil => rfl
  | cons c s =>
      have hc : c ≠ '-' := fun hc => h (by rw [hc]; rfl)
      unfold read? unsigned?
      split
      rename_i heq
      split at heq
      · rename_i hs
        exact absurd (List.cons.inj hs).1 hc
      · obtain ⟨rfl, rfl⟩ := Prod.mk.inj heq
        rfl

/-- A numeral after its sign has a whole part, a fraction and an exponent, one after the other. -/
theorem unsigned?_eq_some_iff {negative : Bool} {n : JsonNumeral} :
    unsigned? negative s = some (n, r) ↔ n.negative = negative ∧
      ∃ afterWhole afterFraction, takeWhole? s = some (n.whole, afterWhole) ∧
        takeFraction? afterWhole = some (n.fraction, afterFraction) ∧
        takeExponent? afterFraction = some (n.exponent, r) := by
  simp only [unsigned?, Option.bind_eq_bind, Option.bind_eq_some_iff, Option.pure_def,
    Option.some.injEq, Prod.mk.injEq, Prod.exists]
  constructor
  · intro h
    obtain ⟨whole, _, hwhole, fraction, _, hfraction, exponent, _, hexponent, rfl, rfl⟩ := h
    exact ⟨rfl, _, _, hwhole, hfraction, hexponent⟩
  · intro h
    obtain ⟨rfl, _, _, hwhole, hfraction, hexponent⟩ := h
    exact ⟨_, _, hwhole, _, _, hfraction, _, _, hexponent, rfl, rfl⟩

/-- So the same numeral is read if something that ends it comes after it. -/
theorem unsigned?_append {negative : Bool} {n : JsonNumeral}
    (h : unsigned? negative s = some (n, r)) (hrest : Ends rest) :
    unsigned? negative (s ++ rest) = some (n, r ++ rest) := by
  obtain ⟨hnegative, _, _, hwhole, hfraction, hexponent⟩ := unsigned?_eq_some_iff.mp h
  exact unsigned?_eq_some_iff.mpr ⟨hnegative, _, _, takeWhole?_append hwhole hrest,
    takeFraction?_append hfraction hrest, takeExponent?_append hexponent hrest⟩

/-- A numeral is read in the same way when something follows that ends it. -/
theorem read?_append {n : JsonNumeral} (h : read? s = some (n, r)) (hrest : Ends rest) :
    read? (s ++ rest) = some (n, r ++ rest) := by
  cases s with
  | nil => cases h
  | cons c s =>
      by_cases hc : c = '-'
      · subst hc
        exact unsigned?_append h hrest
      · have hhead : (c :: s).head? ≠ some '-' := fun hhead => hc (Option.some.inj hhead)
        rw [read?_of_ne_minus hhead] at h
        rw [List.cons_append, read?_of_ne_minus (s := c :: (s ++ rest)) hhead]
        exact unsigned?_append h hrest

end Followed

/-! ## Written integers -/

/-- A digit is not a minus. -/
theorem ne_minus_of_isDigit {c : Char} (h : c.isDigit = true) : c ≠ '-' := by
  rintro rfl
  revert h
  decide

/-- The first digit is the first character, since there is a digit. -/
theorem head?_toDigits_append (n : Nat) (rest : List Char) :
    (Nat.toDigits 10 n ++ rest).head? = (Nat.toDigits 10 n).head? := by
  obtain ⟨d, ds, hds⟩ := List.exists_cons_of_ne_nil (Nat.toDigits_ne_nil (n := n) (b := 10))
  rw [hds]
  rfl

/-- A number that is not zero is not written with a leading zero. -/
theorem head?_toDigits_ne_zero {n : Nat} (hn : n ≠ 0) :
    (Nat.toDigits 10 n).head? ≠ some '0' := by
  induction n using Nat.strongRecOn with
  | ind n ih =>
      by_cases hlt : n < 10
      · rw [Nat.toDigits_of_lt_base hlt]
        have hdigits : ∀ d < 10, d ≠ 0 → [Nat.digitChar d].head? ≠ some '0' := by decide
        exact hdigits n hlt hn
      · rw [Nat.toDigits_of_base_le (by decide) (by omega), head?_toDigits_append]
        exact ih (n / 10) (by omega) (by omega)

theorem isDigit_of_mem_toDigits {n : Nat} {c : Char} (h : c ∈ Nat.toDigits 10 n) :
    c.isDigit = true :=
  Nat.isDigit_of_mem_toDigits (by decide) (by decide) h

/-- A natural number is written without a zero in front, so all of its digits are taken. -/
theorem takeWhole?_toDigits (n : Nat) {rest : List Char} (hrest : Ends rest) :
    takeWhole? (Nat.toDigits 10 n ++ rest) = some (Nat.toDigits 10 n, rest) := by
  have hdigits := takeDigits?_digits (fun _ => isDigit_of_mem_toDigits (n := n))
    Nat.toDigits_ne_nil hrest
  unfold takeWhole?
  rw [hdigits]
  split
  · rename_i heq
    obtain ⟨hzero, _⟩ := Prod.mk.inj (Option.some.inj heq)
    by_cases hn : n = 0
    · subst hn
      simp [Nat.toDigits_of_lt_base] at hzero
    · exact absurd (by rw [hzero]; rfl) (head?_toDigits_ne_zero hn)
  · rfl

/-- The digits of a number are read as its whole part, and it has no other. -/
theorem unsigned?_toDigits (negative : Bool) (n : Nat) {rest : List Char} (hrest : Ends rest) :
    unsigned? negative (Nat.toDigits 10 n ++ rest) =
      some (⟨negative, Nat.toDigits 10 n, none, none⟩, rest) :=
  unsigned?_eq_some_iff.mpr ⟨rfl, _, _, takeWhole?_toDigits n hrest,
    takeFraction?_of_ends hrest, takeExponent?_of_ends hrest⟩

/-- An integer is read as its sign and its digits. -/
theorem read?_integerText (n : Int) {rest : List Char} (hrest : Ends rest) :
    read? (integerText n ++ rest) =
      some (⟨decide (n < 0), Nat.toDigits 10 n.natAbs, none, none⟩, rest) := by
  unfold integerText
  split
  · rename_i hn
    rw [List.cons_append, read?_minus, unsigned?_toDigits true _ hrest, decide_eq_true hn]
  · rename_i hn
    have hhead : (Nat.toDigits 10 n.natAbs ++ rest).head? ≠ some '-' := by
      rw [head?_toDigits_append]
      intro hminus
      exact ne_minus_of_isDigit (isDigit_of_mem_toDigits (List.mem_of_mem_head? hminus)) rfl
    rw [read?_of_ne_minus hhead, unsigned?_toDigits false _ hrest, decide_eq_false hn]

theorem digitsValue_toDigits (n : Nat) : digitsValue (Nat.toDigits 10 n) = n :=
  Nat.ofDigitChars_ten_toDigits

/-- An integer of the format is the value of its digits. -/
theorem integer?_toDigits {n : Int} (hlow : -(Nat.pow 2 63 : Int) ≤ n) (hhigh : n < Nat.pow 2 64) :
    integer? (decide (n < 0)) (Nat.toDigits 10 n.natAbs) = some n := by
  simp only [integer?, significandLimit, digitsValue_toDigits]
  by_cases hn : n < 0
  · have hsize : ¬ (n.natAbs = 0 ∨ Nat.pow 2 63 < n.natAbs) := by omega
    have habs : -(n.natAbs : Int) = n := by omega
    simp only [hn, decide_true, if_true, hsize, if_false, habs]
  · have hsize : n.natAbs < Nat.pow 2 64 := by omega
    have habs : (n.natAbs : Int) = n := by omega
    simp only [hn, decide_false, Bool.false_eq_true, if_false, hsize, if_true, habs]

end JsonNumeral

/-- The digits in which the number is written are read as this number. -/
def Binary64.ReadsBack (x : Binary64) : Prop :=
  ∃ n, JsonNumeral.read? (Numeric.real x).chars = some (n, []) ∧ n.value? = some (.real x)

/-- The numbers that a text can carry: the integers of 64 bits with or without a sign, and
the binary64 numbers that read back. -/
def Numeric.Writable : Numeric → Prop
  | .integer n => -(Nat.pow 2 63 : Int) ≤ n ∧ n < Nat.pow 2 64
  | .real x => x.ReadsBack

/-- A number that a text can carry is read as itself, whatever ends it. -/
theorem JsonNumeral.read?_chars {x : Numeric} (h : x.Writable) {rest : List Char}
    (hrest : Ends rest) :
    ∃ n, read? (x.chars ++ rest) = some (n, rest) ∧ n.value? = some x := by
  cases x with
  | integer n =>
      refine ⟨_, read?_integerText n hrest, ?_⟩
      simp only [value?, integer?_toDigits h.1 h.2]
  | real x =>
      obtain ⟨n, hread, hvalue⟩ := h
      exact ⟨n, by simpa using read?_append hread hrest, hvalue⟩

end Formwork
