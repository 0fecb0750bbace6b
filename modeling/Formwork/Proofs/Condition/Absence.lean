import Formwork.Proofs.Condition.Meaning
import Formwork.Proofs.Value.Path

/-!
# Null where there was no value

An empty control may be stored as null or not at all.  A path through the one leads nowhere,
just as a path through the other, so the two can only be told apart at the key itself, and a
rule that looks there takes a missing value for null, with one exception: null contains a text
that is empty, and a missing value contains nothing.

* `resolve?_put_null_of_ne` — null under a new key changes what is found at that key only;
* `Rule.outcome_null_ne_iff` — the one rule that tells null from a missing value;
* `evaluate_eq_of_reached` — rules with the same outcomes where an evaluation comes to them
  give the same evaluation;
* `evaluate_put_null` — so a condition tells null from a missing value only by such a rule.
-/

namespace Formwork

/-! ## Snapshots -/

/-- Nothing is a part of null. -/
theorem Value.walk?_null {segments : List String} (h : segments ≠ []) :
    Value.null.walk? segments = none := by
  cases segments with
  | nil => exact absurd rfl h
  | cons segment rest => rfl

namespace Snapshot

variable {values : Snapshot} {key path : String}

theorem get?_put_null_of_ne (h : path ≠ key) :
    Entries.get? (values.put key .null) path = values.get? path := by
  rw [Entries.get?_put, if_neg (Ne.symm h)]

/-- A key that is set to null has this value. -/
theorem resolve?_put_null_self : resolve? (values.put key .null) key = some .null := by
  refine resolve?_of_key ?_
  rw [Entries.get?_put, if_pos rfl]

/-- A name without dots has a value only as a key. -/
theorem resolve?_of_absent (hdot : '.' ∉ key.toList) (habsent : values.get? key = none) :
    values.resolve? key = none := by
  rw [resolve?_of_no_key habsent, walk?_of_no_dot hdot, habsent]

/-- Null under a new key changes what is found at that key, and at no other path. -/
theorem resolve?_put_null_of_ne (habsent : values.get? key = none) (hpath : path ≠ key) :
    resolve? (values.put key .null) path = values.resolve? path := by
  by_cases hfirst : firstSegment path = key
  · have hdot : '.' ∈ path.toList := by
      by_contra hdot
      exact hpath ((firstSegment_of_no_dot hdot).symm.trans hfirst)
    obtain ⟨rest, hsplit, hkey⟩ := firstSegment_of_dot hdot
    rw [hfirst] at hsplit hkey
    -- The walk starts from the key: nothing is there, or null, which has no parts.
    have hwalk : walk? (values.put key .null) (segments path) = values.walk? (segments path) := by
      rw [hsplit, segments_append, walk?_append (segments_ne_nil key),
        walk?_append (segments_ne_nil key), walk?_of_no_dot hkey, walk?_of_no_dot hkey, habsent,
        Entries.get?_put, if_pos rfl]
      exact Value.walk?_null (segments_ne_nil rest)
    unfold resolve?
    rw [get?_put_null_of_ne hpath, hwalk]
  · exact resolve?_congr (get?_put_null_of_ne hpath) (get?_put_null_of_ne hfirst)

/-- Where a missing value counts as null, nothing is changed by it. -/
theorem getD_resolve?_put_null (hdot : '.' ∉ key.toList) (habsent : values.get? key = none)
    (path : String) : (resolve? (values.put key .null) path).getD .null =
      (values.resolve? path).getD .null := by
  by_cases hpath : path = key
  · rw [hpath, resolve?_put_null_self, resolve?_of_absent hdot habsent]
    rfl
  · rw [resolve?_put_null_of_ne habsent hpath]

end Snapshot

/-! ## Rules -/

namespace Rule

/-- The rule asks whether a value contains something whose text view is empty. -/
def SeeksNothing (r : Rule) : Prop :=
  r.op = .contains ∧ ∃ v, r.value = some v ∧ v.displayChars = []

/-- Null contains a value exactly if this is displayed as nothing. -/
theorem containsValue_null (v : Value) :
    containsValue (some .null) v = decide (v.displayChars = []) := by
  cases h : v.displayChars <;> simp [containsValue, Value.displayChars, occursIn, h]

/-- Null and a missing value come to the same under every rule but this. -/
theorem outcome_null_ne_iff [PatternEngine] (r : Rule) :
    r.outcome (some .null) ≠ r.outcome none ↔ r.SeeksNothing := by
  obtain ⟨field, op, operand⟩ := r
  cases op with
  | contains =>
      cases operand with
      | none => simp [outcome, SeeksNothing]
      | some v =>
          have hmissing : containsValue none v = false := rfl
          simp [outcome, SeeksNothing, containsValue_null, hmissing]
  | present => simp [outcome, SeeksNothing, Value.isBlank]
  | absent => simp [outcome, SeeksNothing, Value.isBlank]
  | unknown tag => simp [outcome, SeeksNothing]
  | equal => cases operand <;> simp [outcome, SeeksNothing]
  | notEqual => cases operand <;> simp [outcome, SeeksNothing]
  | matching => cases operand <;> simp [outcome, SeeksNothing]
  | greater => cases operand <;> simp [outcome, SeeksNothing, compareNumbers, Value.number?]
  | atLeast => cases operand <;> simp [outcome, SeeksNothing, compareNumbers, Value.number?]
  | less => cases operand <;> simp [outcome, SeeksNothing, compareNumbers, Value.number?]
  | atMost => cases operand <;> simp [outcome, SeeksNothing, compareNumbers, Value.number?]

variable {values : Snapshot} {key : String}

/-- A rule tells null under a new key from no value there if it looks at the key and asks for
what has no text. -/
theorem outcome_put_null_ne_iff [PatternEngine] (hdot : '.' ∉ key.toList)
    (habsent : values.get? key = none)
    (r : Rule) : r.outcome (Snapshot.resolve? (values.put key .null) r.field) ≠
      r.outcome (values.resolve? r.field) ↔ r.field = key ∧ r.SeeksNothing := by
  by_cases hfield : r.field = key
  · rw [hfield, Snapshot.resolve?_put_null_self, Snapshot.resolve?_of_absent hdot habsent,
      outcome_null_ne_iff]
    simp
  · rw [Snapshot.resolve?_put_null_of_ne habsent hfield]
    simp [hfield]

end Rule

/-! ## Conditions -/

namespace Condition

variable {v w : Snapshot}

/-- What is read of a group is read again if the members that are come to are. -/
theorem ReadUpTo.again {read other : Condition → Except EvaluationFault Bool → Prop}
    {settling : Bool} {items : List Condition} {result : Except EvaluationFault Bool}
    (h : ReadUpTo read settling items result)
    (hsame : ∀ before c after, items = before ++ c :: after →
      (∀ b ∈ before, read b (.ok (!settling))) → ∀ r, read c r → other c r) :
    ReadUpTo other settling items result := by
  induction items with
  | nil => rwa [readUpTo_nil] at h ⊢
  | cons c rest ih =>
      have hfirst := hsame [] c rest rfl nofun
      rw [readUpTo_cons] at h ⊢
      rcases h with ⟨hresult, hc⟩ | ⟨hc, hrest⟩
      · exact .inl ⟨hresult, hfirst _ hc⟩
      · refine .inr ⟨hfirst _ hc, ih hrest ?_⟩
        intro before d after hitems hbefore
        exact hsame (c :: before) d after (congrArg (c :: ·) hitems)
          (List.forall_mem_cons.mpr ⟨hc, hbefore⟩)

variable [PatternEngine]

/-- If the rules that an evaluation comes to have the same outcomes in another snapshot, so
has the condition. -/
theorem evaluate_eq_of_reached {c : Condition} (h : ∀ r, Reaches v c (.rule r) →
    r.outcome (w.resolve? r.field) = r.outcome (v.resolve? r.field)) :
    c.evaluate w = c.evaluate v := by
  induction c using inductionOn with
  | rule r =>
      have hr := h r (.here _)
      simp only [evaluate, explain, hr]
      cases r.outcome (v.resolve? r.field) <;> rfl
  | all items ih =>
      refine evaluate_all_iff.mpr ((evaluate_all_iff.mp rfl).again ?_)
      intro before c after hitems hbefore result hc
      subst hitems
      rw [← hc]
      exact ih c (by simp) fun r hr => h r (.all hbefore hr)
  | any items ih =>
      refine evaluate_any_iff.mpr ((evaluate_any_iff.mp rfl).again ?_)
      intro before c after hitems hbefore result hc
      subst hitems
      rw [← hc]
      exact ih c (by simp) fun r hr => h r (.any hbefore hr)
  | unset => rfl
  | conflicting xs ys => rfl

/-- Null under a new key changes what a condition comes to only if its evaluation comes to a
rule that looks at the key and asks for what has no text. -/
theorem evaluate_put_null {key : String} (hdot : '.' ∉ key.toList)
    (habsent : v.get? key = none) {c : Condition}
    (h : ∀ r, Reaches v c (.rule r) → r.field = key → ¬ r.SeeksNothing) :
    c.evaluate (v.put key .null) = c.evaluate v := by
  refine evaluate_eq_of_reached fun r hr => ?_
  by_contra hne
  obtain ⟨hfield, hseeks⟩ := (Rule.outcome_put_null_ne_iff hdot habsent r).mp hne
  exact h r hr hfield hseeks

end Condition

end Formwork
