import Formwork.Proofs.Condition.Reach
import Mathlib.Data.List.Forall2

/-!
# What a condition means

A condition is a boolean formula: a group of which all members are to hold is their
conjunction, one of which any is to hold their disjunction.  That says when a condition is
true, but not what comes of one whose rules may fault.  For this a condition is read from
left to right: a group is settled by the first member that is not read as what leaves the
group open, be it a truth value or a fault, and what stands after that member is not read.

* `Holds` — when a condition is true, whatever the order of its members;
* `Reading` — what comes of reading a condition from left to right;
* `Recorded` — the traces that tell of such a reading;
* `evaluation_is_reading` — an evaluation comes to what the reading comes to, with a fault
  exactly where the reading meets it, and records the reading as it was.
-/

namespace Formwork

namespace Trace

variable (children : List Trace) (b : Bool)

@[simp] theorem outcome_rule (r : Rule) (actual : Option Value) :
    (Trace.rule r actual b).outcome = b := rfl

@[simp] theorem outcome_all : (Trace.all children b).outcome = b := rfl

@[simp] theorem outcome_any : (Trace.any children b).outcome = b := rfl

end Trace

namespace Condition

/-- The condition is true.  A rule that faults is not, nor is a group that sets both of its
lists. -/
inductive Holds [PatternEngine] (values : Snapshot) : Condition → Prop
  | rule {r : Rule} (h : r.outcome (values.resolve? r.field) = .ok true) :
      Holds values (.rule r)
  | all {items : List Condition} (h : ∀ c ∈ items, Holds values c) : Holds values (.all items)
  | any {items : List Condition} {c : Condition} (hc : c ∈ items) (h : Holds values c) :
      Holds values (.any items)
  | unset : Holds values .unset

/-- What comes of reading the condition from left to right: a truth value, or the fault that
is met before one is settled. -/
inductive Reading [PatternEngine]
    (values : Snapshot) : Condition → Except EvaluationFault Bool → Prop
  | rule (r : Rule) : Reading values (.rule r) (r.outcome (values.resolve? r.field))
  | all {items : List Condition} (h : ∀ c ∈ items, Reading values c (.ok true)) :
      Reading values (.all items) (.ok true)
  | allUpTo {before : List Condition} {c : Condition} {after : List Condition}
      {result : Except EvaluationFault Bool}
      (hbefore : ∀ b ∈ before, Reading values b (.ok true)) (hc : Reading values c result)
      (hresult : result ≠ .ok true) : Reading values (.all (before ++ c :: after)) result
  | any {items : List Condition} (h : ∀ c ∈ items, Reading values c (.ok false)) :
      Reading values (.any items) (.ok false)
  | anyUpTo {before : List Condition} {c : Condition} {after : List Condition}
      {result : Except EvaluationFault Bool}
      (hbefore : ∀ b ∈ before, Reading values b (.ok false)) (hc : Reading values c result)
      (hresult : result ≠ .ok false) : Reading values (.any (before ++ c :: after)) result
  | unset : Reading values .unset (.ok true)
  | conflicting (xs ys : List Condition) :
      Reading values (.conflicting xs ys) (.error .conflictingGroup)

/-- The trace tells of a reading that met no fault: it has the shape of the condition, every
rule has the value that was found at its path, and a group has the traces of its members up
to the first that settled it, or of all of them if none did. -/
inductive Recorded [PatternEngine] (values : Snapshot) : Condition → Trace → Prop
  | rule {r : Rule} {b : Bool} (h : r.outcome (values.resolve? r.field) = .ok b) :
      Recorded values (.rule r) (.rule r (values.resolve? r.field) b)
  | all {items : List Condition} {children : List Trace}
      (h : List.Forall₂ (Recorded values) items children)
      (hopen : ∀ t ∈ children, t.outcome = true) : Recorded values (.all items) (.all children true)
  | allUpTo {before : List Condition} {c : Condition} {after : List Condition}
      {children : List Trace} {t : Trace} (h : List.Forall₂ (Recorded values) before children)
      (hopen : ∀ s ∈ children, s.outcome = true) (hc : Recorded values c t)
      (hsettled : t.outcome = false) :
      Recorded values (.all (before ++ c :: after)) (.all (children ++ [t]) false)
  | any {items : List Condition} {children : List Trace}
      (h : List.Forall₂ (Recorded values) items children)
      (hopen : ∀ t ∈ children, t.outcome = false) :
      Recorded values (.any items) (.any children false)
  | anyUpTo {before : List Condition} {c : Condition} {after : List Condition}
      {children : List Trace} {t : Trace} (h : List.Forall₂ (Recorded values) before children)
      (hopen : ∀ s ∈ children, s.outcome = false) (hc : Recorded values c t)
      (hsettled : t.outcome = true) :
      Recorded values (.any (before ++ c :: after)) (.any (children ++ [t]) true)
  | unset : Recorded values .unset (.all [] true)

variable {values : Snapshot}

/-! ## Members of a group -/

/-- The members are recorded in order, up to and with the first whose outcome settles the
group, and all of them if there is none. -/
def RecordedUpTo (record : Condition → Trace → Prop) (settling : Bool) (items : List Condition)
    (children : List Trace) (b : Bool) : Prop :=
  (b = !settling ∧ List.Forall₂ record items children ∧ ∀ t ∈ children, t.outcome = !settling) ∨
    b = settling ∧ ∃ before c after told t, items = before ++ c :: after ∧
      children = told ++ [t] ∧ List.Forall₂ record before told ∧
      (∀ s ∈ told, s.outcome = !settling) ∧ record c t ∧ t.outcome = settling

section RecordedUpTo

variable {record : Condition → Trace → Prop} {settling b : Bool} {items : List Condition}
  {children : List Trace}

/-- An empty group has no members to record, and comes to what none of them settled. -/
theorem recordedUpTo_nil :
    RecordedUpTo record settling [] children b ↔ children = [] ∧ b = !settling := by
  constructor
  · intro h
    rcases h with ⟨hb, hall, _⟩ | ⟨_, before, c, after, _, _, hitems, _⟩
    · exact ⟨List.forall₂_nil_left_iff.mp hall, hb⟩
    · simp at hitems
  · intro h
    obtain ⟨rfl, rfl⟩ := h
    exact Or.inl ⟨rfl, .nil, nofun⟩

/-- The first member settles the group, or the others are recorded after it. -/
theorem recordedUpTo_cons {c : Condition} {rest : List Condition} :
    RecordedUpTo record settling (c :: rest) children b ↔ ∃ t, record c t ∧
      (t.outcome = settling ∧ children = [t] ∧ b = settling ∨
        t.outcome = (!settling) ∧ ∃ others, children = t :: others ∧
          RecordedUpTo record settling rest others b) := by
  constructor
  · intro h
    rcases h with ⟨hb, hall, hopen⟩ | ⟨hb, before, x, after, told, t, hitems, rfl, htold, hopen,
      hx, ht⟩
    · obtain ⟨t, others, hc, hrest, rfl⟩ := List.forall₂_cons_left_iff.mp hall
      obtain ⟨htopen, hothers⟩ := List.forall_mem_cons.mp hopen
      exact ⟨t, hc, Or.inr ⟨htopen, others, rfl, Or.inl ⟨hb, hrest, hothers⟩⟩⟩
    · cases before with
      | nil =>
          obtain ⟨rfl, rfl⟩ := List.cons.inj hitems
          obtain rfl := List.forall₂_nil_left_iff.mp htold
          exact ⟨t, hx, Or.inl ⟨ht, rfl, hb⟩⟩
      | cons first before =>
          obtain ⟨rfl, rfl⟩ := List.cons.inj hitems
          obtain ⟨s, others, hc, hrest, rfl⟩ := List.forall₂_cons_left_iff.mp htold
          obtain ⟨hsopen, hothers⟩ := List.forall_mem_cons.mp hopen
          exact ⟨s, hc, Or.inr ⟨hsopen, others ++ [t], rfl,
            Or.inr ⟨hb, before, x, after, others, t, rfl, rfl, hrest, hothers, hx, ht⟩⟩⟩
  · intro h
    obtain ⟨t, hc, ⟨ht, rfl, rfl⟩ | ⟨ht, others, rfl, hothers⟩⟩ := h
    · exact Or.inr ⟨rfl, [], c, rest, [], t, rfl, rfl, .nil, nofun, hc, ht⟩
    · rcases hothers with ⟨hb, hall, hopen⟩ | ⟨hb, before, x, after, told, s, rfl, rfl, htold,
        hopen, hx, hs⟩
      · exact Or.inl ⟨hb, .cons hc hall, List.forall_mem_cons.mpr ⟨ht, hopen⟩⟩
      · exact Or.inr ⟨hb, c :: before, x, after, t :: told, s, rfl, rfl, .cons hc htold,
          List.forall_mem_cons.mpr ⟨ht, hopen⟩, hx, hs⟩

/-- What is recorded of a group depends on what is recorded of its members. -/
theorem recordedUpTo_congr {other : Condition → Trace → Prop}
    (h : ∀ c ∈ items, ∀ t, record c t ↔ other c t) :
    RecordedUpTo record settling items children b ↔
      RecordedUpTo other settling items children b := by
  induction items generalizing children with
  | nil => rw [recordedUpTo_nil, recordedUpTo_nil]
  | cons c rest ih =>
      obtain ⟨hc, hrest⟩ := List.forall_mem_cons.mp h
      simp only [recordedUpTo_cons, hc, ih hrest]

end RecordedUpTo

section Traces

variable [PatternEngine]

/-- Conditions that are all to hold are recorded up to the first that does not. -/
theorem explainAll_eq_ok_iff {items : List Condition} {children : List Trace} {b : Bool} :
    explainAll values items = .ok (children, b) ↔
      RecordedUpTo (fun c t => c.explain values = .ok t) false items children b := by
  induction items generalizing children with
  | nil => simp [explainAll, recordedUpTo_nil, eq_comm]
  | cons c rest ih =>
      rw [recordedUpTo_cons]
      simp only [explainAll, ← ih]
      cases c.explain values with
      | error e => simp
      | ok t =>
          cases ht : t.outcome with
          | false => simp [ht, @eq_comm _ children]
          | true =>
              cases explainAll values rest with
              | error e => simp [ht]
              | ok r => simp [ht, Prod.ext_iff, @eq_comm _ children]

/-- Conditions of which any is to hold are recorded up to the first that does. -/
theorem explainAny_eq_ok_iff {items : List Condition} {children : List Trace} {b : Bool} :
    explainAny values items = .ok (children, b) ↔
      RecordedUpTo (fun c t => c.explain values = .ok t) true items children b := by
  induction items generalizing children with
  | nil => simp [explainAny, recordedUpTo_nil, eq_comm]
  | cons c rest ih =>
      rw [recordedUpTo_cons]
      simp only [explainAny, ← ih]
      cases c.explain values with
      | error e => simp
      | ok t =>
          cases ht : t.outcome with
          | true => simp [ht, @eq_comm _ children]
          | false =>
              cases explainAny values rest with
              | error e => simp [ht]
              | ok r => simp [ht, Prod.ext_iff, @eq_comm _ children]

/-! ## Traces -/

/-- A group that needs all is settled by a member that is false. -/
theorem recorded_all_iff {items : List Condition} {t : Trace} :
    Recorded values (.all items) t ↔ ∃ children b, t = .all children b ∧
      RecordedUpTo (Recorded values) false items children b := by
  constructor
  · intro h
    cases h with
    | all h hopen => exact ⟨_, true, rfl, Or.inl ⟨rfl, h, hopen⟩⟩
    | allUpTo h hopen hc ht =>
        exact ⟨_, false, rfl, Or.inr ⟨rfl, _, _, _, _, _, rfl, rfl, h, hopen, hc, ht⟩⟩
  · intro h
    obtain ⟨_, _, rfl, ⟨rfl, h, hopen⟩ |
      ⟨rfl, before, c, after, told, t, rfl, rfl, h, hopen, hc, ht⟩⟩ := h
    · exact .all h hopen
    · exact .allUpTo h hopen hc ht

/-- A group that needs any is settled by a member that is true. -/
theorem recorded_any_iff {items : List Condition} {t : Trace} :
    Recorded values (.any items) t ↔ ∃ children b, t = .any children b ∧
      RecordedUpTo (Recorded values) true items children b := by
  constructor
  · intro h
    cases h with
    | any h hopen => exact ⟨_, false, rfl, Or.inl ⟨rfl, h, hopen⟩⟩
    | anyUpTo h hopen hc ht =>
        exact ⟨_, true, rfl, Or.inr ⟨rfl, _, _, _, _, _, rfl, rfl, h, hopen, hc, ht⟩⟩
  · intro h
    obtain ⟨_, _, rfl, ⟨rfl, h, hopen⟩ |
      ⟨rfl, before, c, after, told, t, rfl, rfl, h, hopen, hc, ht⟩⟩ := h
    · exact .any h hopen
    · exact .anyUpTo h hopen hc ht

/-- What an evaluation gives is the record of a reading, and every such record is given. -/
theorem explain_eq_ok_iff {c : Condition} {t : Trace} :
    c.explain values = .ok t ↔ Recorded values c t := by
  induction c using inductionOn generalizing t with
  | rule r =>
      rw [explain]
      constructor
      · intro h
        cases hr : r.outcome (values.resolve? r.field) with
        | error e => simp [hr] at h
        | ok b =>
            obtain rfl : .rule r _ b = t := by simpa [hr] using h
            exact .rule hr
      · intro h
        cases h with
        | rule hr => simp [hr]
  | all items ih =>
      rw [recorded_all_iff, explain]
      -- the members are recorded as the induction says, up to the one that settles the group
      simp only [← recordedUpTo_congr fun c hc t => ih c hc, ← explainAll_eq_ok_iff]
      cases explainAll values items with
      | error e => simp
      | ok r => simp [Prod.ext_iff, eq_comm]
  | any items ih =>
      rw [recorded_any_iff, explain]
      simp only [← recordedUpTo_congr fun c hc t => ih c hc, ← explainAny_eq_ok_iff]
      cases explainAny values items with
      | error e => simp
      | ok r => simp [Prod.ext_iff, eq_comm]
  | unset =>
      rw [explain]
      constructor
      · intro h
        obtain rfl := Except.ok.inj h
        exact .unset
      · intro h
        cases h
        rfl
  | conflicting xs ys =>
      refine iff_of_false (by simp [explain]) ?_
      intro h
      cases h

end Traces

/-! ## Truth values and faults -/

/-- The members are read in order, up to the first that is not read as what leaves the group
open, which then is what comes of the group. -/
def ReadUpTo (read : Condition → Except EvaluationFault Bool → Prop) (settling : Bool)
    (items : List Condition) (result : Except EvaluationFault Bool) : Prop :=
  result = .ok (!settling) ∧ (∀ c ∈ items, read c (.ok (!settling))) ∨
    result ≠ .ok (!settling) ∧
      ComesTo (fun b => read b (.ok (!settling))) (fun c => read c result) items

section ReadUpTo

variable {read : Condition → Except EvaluationFault Bool → Prop} {settling : Bool}
  {items : List Condition} {result : Except EvaluationFault Bool}

/-- An empty group comes to what none of its members settled. -/
theorem readUpTo_nil : ReadUpTo read settling [] result ↔ result = .ok (!settling) := by
  simp [ReadUpTo, not_comesTo_nil]

/-- A group comes to what its first member does, or to what the others do if that one leaves it
open. -/
theorem readUpTo_cons {c : Condition} {rest : List Condition} :
    ReadUpTo read settling (c :: rest) result ↔
      result ≠ .ok (!settling) ∧ read c result ∨
        read c (.ok (!settling)) ∧ ReadUpTo read settling rest result := by
  simp only [ReadUpTo, comesTo_cons, List.forall_mem_cons]
  tauto

/-- What a group comes to depends on what its members come to. -/
theorem readUpTo_congr {other : Condition → Except EvaluationFault Bool → Prop}
    (h : ∀ c ∈ items, ∀ r, read c r ↔ other c r) :
    ReadUpTo read settling items result ↔ ReadUpTo other settling items result := by
  induction items with
  | nil => rw [readUpTo_nil, readUpTo_nil]
  | cons c rest ih =>
      obtain ⟨hc, hrest⟩ := List.forall_mem_cons.mp h
      simp only [readUpTo_cons, hc, ih hrest]

end ReadUpTo

variable [PatternEngine]

section Reading

variable {items : List Condition} {result : Except EvaluationFault Bool}

/-- A group that needs all is evaluated up to the first member that is false or a fault. -/
theorem evaluate_all_iff : (all items).evaluate values = result ↔
    ReadUpTo (fun c r => c.evaluate values = r) false items result := by
  induction items with
  | nil => simp [evaluate, explain, explainAll, readUpTo_nil, eq_comm]
  | cons c rest ih =>
      rw [readUpTo_cons, ← ih]
      simp only [evaluate, explain, explainAll]
      cases c.explain values with
      | error e => simp +contextual [@eq_comm _ _ result]
      | ok t =>
          cases ht : t.outcome with
          | false => simp +contextual [ht, @eq_comm _ _ result]
          | true => cases explainAll values rest <;> simp [ht, @eq_comm _ _ result]

/-- A group that needs any is evaluated up to the first member that is true or a fault. -/
theorem evaluate_any_iff : (any items).evaluate values = result ↔
    ReadUpTo (fun c r => c.evaluate values = r) true items result := by
  induction items with
  | nil => simp [evaluate, explain, explainAny, readUpTo_nil, eq_comm]
  | cons c rest ih =>
      rw [readUpTo_cons, ← ih]
      simp only [evaluate, explain, explainAny]
      cases c.explain values with
      | error e => simp +contextual [@eq_comm _ _ result]
      | ok t =>
          cases ht : t.outcome with
          | true => simp +contextual [ht, @eq_comm _ _ result]
          | false => cases explainAny values rest <;> simp [ht, @eq_comm _ _ result]

/-- A group that needs all is read in the same way. -/
theorem reading_all_iff :
    Reading values (.all items) result ↔ ReadUpTo (Reading values) false items result := by
  constructor
  · intro h
    cases h with
    | all h => exact Or.inl ⟨rfl, h⟩
    | allUpTo hbefore hc hresult => exact Or.inr ⟨hresult, _, _, _, rfl, hbefore, hc⟩
  · intro h
    rcases h with ⟨rfl, h⟩ | ⟨hresult, before, c, after, rfl, hbefore, hc⟩
    · exact .all h
    · exact .allUpTo hbefore hc hresult

/-- So is a group that needs any. -/
theorem reading_any_iff :
    Reading values (.any items) result ↔ ReadUpTo (Reading values) true items result := by
  constructor
  · intro h
    cases h with
    | any h => exact Or.inl ⟨rfl, h⟩
    | anyUpTo hbefore hc hresult => exact Or.inr ⟨hresult, _, _, _, rfl, hbefore, hc⟩
  · intro h
    rcases h with ⟨rfl, h⟩ | ⟨hresult, before, c, after, rfl, hbefore, hc⟩
    · exact .any h
    · exact .anyUpTo hbefore hc hresult

end Reading

/-- An evaluation comes to what the reading comes to. -/
theorem evaluate_eq_iff_reading {c : Condition} {result : Except EvaluationFault Bool} :
    c.evaluate values = result ↔ Reading values c result := by
  induction c using inductionOn generalizing result with
  | rule r =>
      have heval : (rule r).evaluate values = r.outcome (values.resolve? r.field) := by
        simp only [evaluate, explain]
        cases r.outcome (values.resolve? r.field) <;> rfl
      rw [heval]
      constructor
      · rintro rfl
        exact .rule r
      · intro h
        cases h
        rfl
  | all items ih => rw [evaluate_all_iff, reading_all_iff, readUpTo_congr fun c hc r => ih c hc]
  | any items ih => rw [evaluate_any_iff, reading_any_iff, readUpTo_congr fun c hc r => ih c hc]
  | unset =>
      constructor
      · rintro rfl
        exact .unset
      · intro h
        cases h
        rfl
  | conflicting xs ys =>
      constructor
      · rintro rfl
        exact .conflicting xs ys
      · intro h
        cases h
        rfl

/-- Where a reading meets no fault, it comes to the truth. -/
theorem Reading.holds_iff {c : Condition} {b : Bool} (h : Reading values c (.ok b)) :
    b = true ↔ Holds values c := by
  generalize hresult : Except.ok b = result at h
  induction h generalizing b with
  | rule r =>
      constructor
      · rintro rfl
        exact .rule hresult.symm
      · intro hholds
        cases hholds with
        | rule h => simpa [h] using hresult
  | all _ ih =>
      refine iff_of_true (by simpa using hresult) ?_
      exact .all fun c hc => (ih c hc rfl).mp rfl
  | allUpTo _ _ hsettled _ ih =>
      subst hresult
      -- the member that settles the group is false, so not all hold
      have hb : b ≠ true := fun hb => hsettled (congrArg Except.ok hb)
      refine iff_of_false hb ?_
      intro hholds
      cases hholds with
      | all h => exact hb ((ih rfl).mpr (h _ (by simp)))
  | any _ ih =>
      obtain rfl : b = false := by simpa using hresult
      refine iff_of_false Bool.false_ne_true ?_
      intro hholds
      cases hholds with
      | any hc h => exact Bool.false_ne_true ((ih _ hc rfl).mpr h)
  | anyUpTo _ _ hsettled _ ih =>
      subst hresult
      -- the member that settles the group is true
      have hb : b = true := by
        cases b with
        | true => rfl
        | false => exact absurd rfl hsettled
      exact iff_of_true hb (.any (by simp) ((ih rfl).mp hb))
  | unset => exact iff_of_true (by simpa using hresult) .unset
  | conflicting xs ys => cases hresult

/-! ## Evaluation -/

/-- **Evaluation is reading from left to right.**  An evaluation comes to exactly what the
reading of the condition comes to, and to a fault exactly if the reading meets it; otherwise
it comes to whether the condition is true.  The trace that it gives is exactly the one that
tells of the reading. -/
theorem evaluation_is_reading (c : Condition) (values : Snapshot) :
    (∀ result, c.evaluate values = result ↔ Reading values c result) ∧
    (∀ e, c.explain values = .error e ↔ Reading values c (.error e)) ∧
    (∀ b, c.evaluate values = .ok b ↔
      (∀ e, ¬ Reading values c (.error e)) ∧ (b = true ↔ Holds values c)) ∧
    (∀ t, c.explain values = .ok t ↔
      Recorded values c t ∧ Reading values c (.ok t.outcome)) := by
  refine ⟨fun _ => evaluate_eq_iff_reading, ?_, ?_, ?_⟩
  · intro e
    rw [← evaluate_eq_iff_reading, evaluate]
    cases c.explain values <;> simp
  · intro b
    simp only [← evaluate_eq_iff_reading]
    cases h : c.evaluate values with
    | error e => simp
    | ok outcome =>
        have hholds := (evaluate_eq_iff_reading.mp h).holds_iff
        rw [← hholds]
        cases outcome <;> cases b <;> simp
  · intro t
    rw [← explain_eq_ok_iff, ← evaluate_eq_iff_reading, evaluate]
    refine (and_iff_left_of_imp ?_).symm
    intro h
    rw [h]

end Condition

end Formwork
