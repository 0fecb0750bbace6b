import Formwork.Pattern.Meaning
import Formwork.Proofs.Compilation.Faults
import Formwork.Proofs.Constraint.Bounds

/-!
# Messages of one's own

A constraint finds the same faults with a message of its own as without, so it passes the same
values, and it tells this message whatever the fault is, with one exception: a pattern that is
none is told as such.  That fault is met last, by a text that passes all else that is asked of
it.

* `fault?_withMessage` — the message has no part in what is found wrong;
* `Constraint.TriesInvalid` — a text for which nothing is left but a pattern that is none;
* `fault?_eq_invalidPattern_iff` — such a text is at fault with the pattern, and no other value;
* `own_message_told` — what is told, and of which values.
-/

namespace Formwork

/-! ## Tests made in order -/

section Tests

variable {tests : List (Option Fault)} {e : Fault}

/-- The first fault is the result of one of the tests. -/
theorem mem_of_firstFault (h : firstFault tests = some e) : some e ∈ tests := by
  obtain ⟨test, htest, he⟩ := List.exists_of_findSome?_eq_some h
  rwa [← show test = some e from he]

/-- The last of some tests counts if the others find nothing. -/
theorem firstFault_snoc_eq_some_iff {last : Option Fault} :
    firstFault (tests ++ [last]) = some e ↔
      firstFault tests = some e ∨ firstFault tests = none ∧ last = some e := by
  unfold firstFault
  rw [List.findSome?_append, Option.or_eq_some_iff]
  simp

/-- A test against a bound gives its own fault and no other. -/
theorem faultIf_ne {α : Type} {bound : Option α} {broken : α → Bool} {fault : α → Fault}
    (h : ∀ b, fault b ≠ e) : some e ≠ faultIf bound broken fault := by
  intro hfault
  cases bound with
  | none => cases hfault
  | some b =>
      unfold faultIf at hfault
      by_cases hbroken : broken b = true
      · simp only [hbroken, if_true, Option.some.injEq] at hfault
        exact h b hfault.symm
      · simp [hbroken] at hfault

end Tests

/-- A pattern is reported as invalid exactly if it is. -/
theorem patternFault?_eq_invalidPattern_iff [PatternEngine] {pattern text p : String} :
    patternFault? pattern text = some (.invalidPattern p) ↔
      pattern = p ∧ Pattern.isValid pattern = false := by
  rw [← matchPattern?_eq_none_iff]
  unfold patternFault?
  cases matchPattern? pattern text with
  | none => simp
  | some found => cases found <;> simp

namespace Constraint

variable [PatternEngine] {c : Constraint} {v : Value} {m p : String}

/-! ## A pattern that is none -/

/-- The tests of a text that come before its pattern. -/
def testsBefore (lo hi : Option Nat) (format : Option TextFormat) (s : String) :
    List (Option Fault) :=
  [faultIf lo (fun n => s.length < n) .tooShort, faultIf hi (fun n => n < s.length) .tooLong,
    faultIf format (fun f => !f.accepts s.toList) .notFormat]

/-- A text is tested against its length and format first and against the pattern last. -/
theorem fault?_text (lo hi : Option Nat) (pattern : Option String) (format : Option TextFormat)
    (message : Option String) (s : String) : (text lo hi pattern format message).fault? (.text s) =
      firstFault (testsBefore lo hi format s ++ [pattern.bind fun p => patternFault? p s]) := rfl

omit [PatternEngine] in
/-- No earlier test reports a pattern. -/
theorem invalidPattern_not_mem_testsBefore (lo hi : Option Nat) (format : Option TextFormat)
    (s p : String) : some (.invalidPattern p) ∉ testsBefore lo hi format s := by
  simp [testsBefore, faultIf_ne]

/-- Nothing is left to be asked of the value but a pattern, which is none. -/
inductive TriesInvalid : Constraint → Value → String → Prop
  | text {lo hi : Option Nat} {pattern : String} {format : Option TextFormat}
      {message : Option String} {s : String} (hinvalid : Pattern.isValid pattern = false)
      (hpasses : (text lo hi none format message).check (.text s) = none) :
      TriesInvalid (.text lo hi (some pattern) format message) (.text s) pattern

/-- Without a pattern the earlier tests decide. -/
theorem check_eq_none_iff_of_no_pattern {lo hi : Option Nat} {format : Option TextFormat}
    {message : Option String} {s : String} :
    (text lo hi none format message).check (.text s) = none ↔
      firstFault (testsBefore lo hi format s) = none := by
  rw [check_eq_none_iff, fault?_text, firstFault_eq_none_iff, List.forall_mem_append,
    ← firstFault_eq_none_iff]
  exact and_iff_left (List.forall_mem_singleton.mpr rfl)

/-- A text constraint tells of a pattern that is none the texts that pass all its other tests. -/
theorem triesInvalid_of_text {lo hi : Option Nat} {pattern : Option String}
    {format : Option TextFormat} {message : Option String} {s : String}
    (h : (text lo hi pattern format message).fault? (.text s) = some (.invalidPattern p)) :
    (text lo hi pattern format message).TriesInvalid (.text s) p := by
  rw [fault?_text, firstFault_snoc_eq_some_iff] at h
  obtain ⟨hbefore, hlast⟩ := h.resolve_left fun hbefore =>
    invalidPattern_not_mem_testsBefore lo hi format s p (mem_of_firstFault hbefore)
  obtain ⟨source, rfl, hfault⟩ := Option.bind_eq_some_iff.mp hlast
  obtain ⟨rfl, hinvalid⟩ := patternFault?_eq_invalidPattern_iff.mp hfault
  exact .text hinvalid (check_eq_none_iff_of_no_pattern.mpr hbefore)

/-- No number is reported for its pattern. -/
theorem number_fault?_ne_invalidPattern (lo hi : Option Binary64) (integer : Bool)
    (message : Option String) :
    (number lo hi integer message).fault? v ≠ some (.invalidPattern p) := by
  intro h
  unfold fault? at h
  cases hnumber : numberOf? v with
  | none => simp [hnumber] at h
  | some x =>
      simp only [hnumber] at h
      have hmem := mem_of_firstFault h
      simp [faultIf_ne] at hmem

/-- Only a text constraint has a pattern to tell of. -/
theorem exists_text_of_invalidPattern (h : c.fault? v = some (.invalidPattern p)) :
    ∃ lo hi pattern format message s, c = .text lo hi pattern format message ∧ v = .text s := by
  cases c with
  | any => cases h
  | text lo hi pattern format message =>
      cases v with
      | text s => exact ⟨lo, hi, pattern, format, message, s, rfl, rfl⟩
      | _ => cases h
  | number lo hi integer message =>
      exact absurd h (number_fault?_ne_invalidPattern lo hi integer message)
  | boolean mustBeTrue message => cases v <;> simp [fault?] at h
  | oneOf values message => simp [fault?] at h
  | many lo hi allowed message =>
      cases v with
      | list items =>
          have hmem := mem_of_firstFault h
          simp [faultIf_ne] at hmem
      | _ => cases h
  | date message => cases v <;> simp [fault?] at h
  | dateTime message => cases v <;> simp [fault?] at h

/-- A pattern that is none is told of the values for which nothing else is left. -/
theorem fault?_eq_invalidPattern_iff :
    c.fault? v = some (.invalidPattern p) ↔ c.TriesInvalid v p := by
  constructor
  · intro h
    obtain ⟨lo, hi, pattern, format, message, s, rfl, rfl⟩ := exists_text_of_invalidPattern h
    exact triesInvalid_of_text h
  · intro h
    cases h with
    | text hinvalid hpasses =>
        rw [fault?_text, firstFault_snoc_eq_some_iff]
        exact .inr ⟨check_eq_none_iff_of_no_pattern.mp hpasses,
          patternFault?_eq_invalidPattern_iff.mpr ⟨rfl, hinvalid⟩⟩

/-! ## The message that is told -/

/-- The message has no part in what is found wrong. -/
theorem fault?_withMessage (c : Constraint) (m : String) (v : Value) :
    (c.withMessage m).fault? v = c.fault? v := by
  cases c <;> cases v <;> rfl

omit [PatternEngine] in
/-- A constraint with a message of its own tells it of every fault but a pattern that is none. -/
theorem messageFor_withMessage {e : Fault} (hany : c ≠ .any) (he : ∀ p, e ≠ .invalidPattern p) :
    (c.withMessage m).messageFor e = m := by
  have hown : (c.withMessage m).message? = some m := by
    cases c with
    | any => exact absurd rfl hany
    | _ => rfl
  cases e with
  | invalidPattern p => exact absurd rfl (he p)
  | _ => exact congrArg (Option.getD · _) hown

/-- A message of one's own does not change what passes. -/
theorem check_withMessage_eq_none_iff :
    (c.withMessage m).check v = none ↔ c.check v = none := by
  rw [check_eq_none_iff, check_eq_none_iff, fault?_withMessage]

/-- A pattern that is none is told as such. -/
theorem check_withMessage_of_triesInvalid (h : c.TriesInvalid v p) :
    (c.withMessage m).check v = some (Fault.invalidPattern p).message := by
  unfold check
  rw [fault?_withMessage, fault?_eq_invalidPattern_iff.mpr h]
  rfl

/-- Whatever else is wrong, the message is told. -/
theorem check_withMessage_of_not_triesInvalid (h : ∀ p, ¬ c.TriesInvalid v p)
    (hfails : c.check v ≠ none) : (c.withMessage m).check v = some m := by
  rw [Ne, check_eq_none_iff] at hfails
  obtain ⟨e, he⟩ := Option.ne_none_iff_exists'.mp hfails
  have hany : c ≠ .any := by
    intro hany
    subst hany
    cases he
  have hother : ∀ p, e ≠ .invalidPattern p := by
    intro p hp
    subst hp
    exact h p (fault?_eq_invalidPattern_iff.mp he)
  unfold check
  rw [fault?_withMessage, he]
  exact congrArg some (messageFor_withMessage hany hother)

/-- Where an invalid pattern is tried, the value does not pass. -/
theorem TriesInvalid.check_ne_none (h : c.TriesInvalid v p) : c.check v ≠ none := by
  rw [Ne, check_eq_none_iff, fault?_eq_invalidPattern_iff.mpr h]
  exact nofun

end Constraint

/-- **A message of one's own is told of every fault but one.**  A constraint passes the same
values with a message of its own as without.  Of a value that it does not pass it tells this
message, unless all that is left to be asked of the value is a pattern that is none: then it
tells that.  So where the pattern is one, or there is none, only the message is told. -/
theorem own_message_told [PatternEngine] (c : Constraint) (m : String) (v : Value) :
    ((c.withMessage m).check v = none ↔ c.check v = none) ∧
    ((∀ p, ¬ c.TriesInvalid v p) → c.check v ≠ none → (c.withMessage m).check v = some m) ∧
    (∀ p, c.TriesInvalid v p → c.check v ≠ none ∧
      (c.withMessage m).check v = some (Fault.invalidPattern p).message) ∧
    ((∀ p, c.pattern? = some p → Pattern.isValid p = true) → c.check v ≠ none →
      (c.withMessage m).check v = some m) := by
  refine ⟨Constraint.check_withMessage_eq_none_iff,
    Constraint.check_withMessage_of_not_triesInvalid, ?_, ?_⟩
  · intro p hp
    exact ⟨hp.check_ne_none, Constraint.check_withMessage_of_triesInvalid hp⟩
  · intro hvalid hfails
    refine Constraint.check_withMessage_of_not_triesInvalid ?_ hfails
    intro p hp
    cases hp with
    | text hinvalid _ =>
        rw [hvalid _ rfl] at hinvalid
        cases hinvalid

/-- Two to four small letters. -/
def smallLetters : Constraint := .text (some 2) (some 4) (some "^[a-z]+$") none none

/-- The message of the letters is told of a digit among them and of a single letter. -/
theorem small_letters_told :
    (∀ p, smallLetters.pattern? = some p → Pattern.isValid p = true) ∧
    smallLetters.check (.text "ab1") = some "Has an invalid format" ∧
    (smallLetters.withMessage "Use 2-4 small letters").check (.text "ab1") =
      some "Use 2-4 small letters" ∧
    (smallLetters.withMessage "Use 2-4 small letters").check (.text "a") =
      some "Use 2-4 small letters" := by
  have hvalid : ∀ p, smallLetters.pattern? = some p → Pattern.isValid p = true := by
    intro p hp
    rw [← Option.some.inj hp]
    decide +kernel
  have hdigit : smallLetters.check (.text "ab1") = some "Has an invalid format" := by
    decide +kernel
  have hshort : smallLetters.check (.text "a") ≠ none := by decide +kernel
  obtain ⟨_, _, _, htold⟩ := own_message_told smallLetters "Use 2-4 small letters" (.text "ab1")
  obtain ⟨_, _, _, htold'⟩ := own_message_told smallLetters "Use 2-4 small letters" (.text "a")
  exact ⟨hvalid, hdigit, htold hvalid (by simp [hdigit]), htold' hvalid hshort⟩

/-- An unclosed parenthesis is told as such, whatever message is given. -/
theorem unclosed_pattern_told_as_such :
    Constraint.text none none (some "(") none none ≠ .any ∧
    (Constraint.text none none (some "(") none none).check (.text "x") ≠ none ∧
    ((Constraint.text none none (some "(") none none).withMessage "Use letters").check
      (.text "x") = some "Invalid pattern '(': <regex error>" ∧
    ((Constraint.text none none (some "(") none none).withMessage "Use letters").check
      (.text "x") ≠ some "Use letters" := by
  have htold : ((Constraint.text none none (some "(") none none).withMessage "Use letters").check
      (.text "x") = some "Invalid pattern '(': <regex error>" := by decide +kernel
  refine ⟨nofun, by decide +kernel, htold, ?_⟩
  rw [htold]
  decide

end Formwork
