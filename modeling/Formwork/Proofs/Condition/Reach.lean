import Formwork.Condition.Evaluation

/-!
# Where an evaluation comes to

An evaluation goes through the members of a group in order and stops at the first that
settles the outcome.  So it comes to a part of a condition only if the parts before it
hold, in a group of which all are to hold, or do not hold, in a group of which any is.
A fault is met at one of the parts that the evaluation comes to.

* `Condition.inductionOn` — induction over a condition with its groups as lists;
* `explainAll_eq_error_iff` and `explainAny_eq_error_iff` — faults in a list;
* `explain_eq_error_iff` — an evaluation faults exactly where it comes to a rule that
  faults by itself, or to a group that sets both of its lists.
-/

namespace Formwork

namespace Condition

/-- Induction over a condition: a group may use the claim for each of its members. -/
@[elab_as_elim]
theorem inductionOn {motive : Condition → Prop} (c : Condition)
    (rule : ∀ r, motive (.rule r))
    (all : ∀ items, (∀ c ∈ items, motive c) → motive (.all items))
    (any : ∀ items, (∀ c ∈ items, motive c) → motive (.any items))
    (unset : motive .unset)
    (conflicting : ∀ xs ys, (∀ c ∈ xs, motive c) → (∀ c ∈ ys, motive c) →
      motive (.conflicting xs ys)) : motive c :=
  match c with
  | .rule r => rule r
  | .all items => all items fun c _ => inductionOn c rule all any unset conflicting
  | .any items => any items fun c _ => inductionOn c rule all any unset conflicting
  | .unset => unset
  | .conflicting xs ys =>
    conflicting xs ys (fun c _ => inductionOn c rule all any unset conflicting)
      (fun c _ => inductionOn c rule all any unset conflicting)

/-- The evaluation of the one condition comes to the other, which is a part of it. -/
inductive Reaches [PatternEngine] (values : Snapshot) : Condition → Condition → Prop
  | here (c : Condition) : Reaches values c c
  | all {before : List Condition} {c : Condition} {after : List Condition} {x : Condition}
      (hbefore : ∀ b ∈ before, b.evaluate values = .ok true) (hx : Reaches values c x) :
      Reaches values (.all (before ++ c :: after)) x
  | any {before : List Condition} {c : Condition} {after : List Condition} {x : Condition}
      (hbefore : ∀ b ∈ before, b.evaluate values = .ok false) (hx : Reaches values c x) :
      Reaches values (.any (before ++ c :: after)) x

variable {values : Snapshot}

/-! ## Faults in a list -/

/-- A list is gone through in order, past members with the one property, up to a member
with the other. -/
def ComesTo (passed found : Condition → Prop) (items : List Condition) : Prop :=
  ∃ before c after, items = before ++ c :: after ∧ (∀ b ∈ before, passed b) ∧ found c

/-- Nothing is found in an empty list. -/
theorem not_comesTo_nil {passed found : Condition → Prop} : ¬ ComesTo passed found [] := by
  intro h
  obtain ⟨before, c, after, hnil, _⟩ := h
  simp at hnil

/-- What is sought is found in the first condition, or in the others if the first is passed. -/
theorem comesTo_cons {passed found : Condition → Prop} {c : Condition} {rest : List Condition} :
    ComesTo passed found (c :: rest) ↔ found c ∨ (passed c ∧ ComesTo passed found rest) := by
  constructor
  · intro h
    obtain ⟨before, x, after, hitems, hbefore, hx⟩ := h
    cases before with
    | nil =>
        obtain ⟨rfl, _⟩ := List.cons.inj hitems
        exact Or.inl hx
    | cons b before =>
        obtain ⟨rfl, rfl⟩ := List.cons.inj hitems
        refine Or.inr ⟨hbefore c List.mem_cons_self, before, x, after, rfl, ?_, hx⟩
        intro b hb
        exact hbefore b (List.mem_cons_of_mem _ hb)
  · intro h
    rcases h with hc | ⟨hc, before, x, after, rfl, hbefore, hx⟩
    · exact ⟨[], c, rest, rfl, by simp, hc⟩
    · refine ⟨c :: before, x, after, rfl, ?_, hx⟩
      intro b hb
      rcases List.mem_cons.mp hb with rfl | hb
      · exact hc
      · exact hbefore b hb

variable [PatternEngine]

/-- Conditions that are all to hold fault at the first that does not hold. -/
theorem explainAll_eq_error_iff {items : List Condition} {e : EvaluationFault} :
    explainAll values items = .error e ↔
      ComesTo (fun b => b.evaluate values = .ok true) (fun c => c.explain values = .error e)
        items := by
  induction items with
  | nil => simp [explainAll, not_comesTo_nil]
  | cons c rest ih =>
      rw [comesTo_cons, ← ih]
      simp only [explainAll, evaluate]
      cases c.explain values with
      | error f => simp
      | ok t =>
          cases ht : t.outcome with
          | false => simp [ht]
          | true => cases explainAll values rest <;> simp [ht]

/-- Conditions of which any is to hold fault at the first that does not fail to hold. -/
theorem explainAny_eq_error_iff {items : List Condition} {e : EvaluationFault} :
    explainAny values items = .error e ↔
      ComesTo (fun b => b.evaluate values = .ok false) (fun c => c.explain values = .error e)
        items := by
  induction items with
  | nil => simp [explainAny, not_comesTo_nil]
  | cons c rest ih =>
      rw [comesTo_cons, ← ih]
      simp only [explainAny, evaluate]
      cases c.explain values with
      | error f => simp
      | ok t =>
          cases ht : t.outcome with
          | true => simp [ht]
          | false => cases explainAny values rest <;> simp [ht]

/-! ## Faults in a condition -/

/-- The part of a condition faults by itself, whatever is around it. -/
def FaultsHere (values : Snapshot) (e : EvaluationFault) : Condition → Prop
  | .rule r => r.outcome (values.resolve? r.field) = .error e
  | .conflicting _ _ => e = .conflictingGroup
  | _ => False

/-- An evaluation comes to a member of a group that needs all while those before it are true. -/
theorem reaches_all_iff {items : List Condition} {x : Condition} :
    Reaches values (.all items) x ↔ x = .all items ∨
      ComesTo (fun b => b.evaluate values = .ok true) (fun c => Reaches values c x) items := by
  constructor
  · intro h
    cases h with
    | here => exact Or.inl rfl
    | all hbefore hx => exact Or.inr ⟨_, _, _, rfl, hbefore, hx⟩
  · intro h
    rcases h with rfl | ⟨before, c, after, rfl, hbefore, hx⟩
    · exact .here _
    · exact .all hbefore hx

/-- It comes to a member of a group that needs any while those before it are false. -/
theorem reaches_any_iff {items : List Condition} {x : Condition} :
    Reaches values (.any items) x ↔ x = .any items ∨
      ComesTo (fun b => b.evaluate values = .ok false) (fun c => Reaches values c x) items := by
  constructor
  · intro h
    cases h with
    | here => exact Or.inl rfl
    | any hbefore hx => exact Or.inr ⟨_, _, _, rfl, hbefore, hx⟩
  · intro h
    rcases h with rfl | ⟨before, c, after, rfl, hbefore, hx⟩
    · exact .here _
    · exact .any hbefore hx

/-- If faults in the members of a list are where the evaluation comes to, so are those
found by going through the list. -/
theorem comesTo_fault_iff {passed : Condition → Prop} {items : List Condition}
    {e : EvaluationFault} (ih : ∀ c ∈ items, (c.explain values = .error e ↔
      ∃ x, Reaches values c x ∧ FaultsHere values e x)) :
    ComesTo passed (fun c => c.explain values = .error e) items ↔
      ∃ x, ComesTo passed (fun c => Reaches values c x) items ∧ FaultsHere values e x := by
  constructor
  · intro h
    obtain ⟨before, c, after, rfl, hbefore, hc⟩ := h
    obtain ⟨x, hx, hfault⟩ := (ih c (by simp)).mp hc
    exact ⟨x, ⟨before, c, after, rfl, hbefore, hx⟩, hfault⟩
  · intro h
    obtain ⟨x, ⟨before, c, after, rfl, hbefore, hx⟩, hfault⟩ := h
    exact ⟨before, c, after, rfl, hbefore, (ih c (by simp)).mpr ⟨x, hx, hfault⟩⟩

/-- An evaluation faults exactly where it comes to a part that faults by itself. -/
theorem explain_eq_error_iff {c : Condition} {e : EvaluationFault} :
    c.explain values = .error e ↔ ∃ x, Reaches values c x ∧ FaultsHere values e x := by
  induction c using inductionOn with
  | rule r =>
      have hexplain : (Condition.rule r).explain values = .error e ↔
          FaultsHere values e (.rule r) := by
        simp only [explain, FaultsHere]
        cases r.outcome (values.resolve? r.field) <;> simp
      rw [hexplain]
      constructor
      · intro h
        exact ⟨_, .here _, h⟩
      · intro h
        obtain ⟨x, hx, hfault⟩ := h
        cases hx
        exact hfault
  | all items ih =>
      -- a group faults only where its members do
      have hexplain : (Condition.all items).explain values = .error e ↔
          explainAll values items = .error e := by
        simp only [explain]
        cases explainAll values items <;> simp
      rw [hexplain, explainAll_eq_error_iff, comesTo_fault_iff ih]
      simp only [reaches_all_iff, or_and_right, exists_or]
      simp [FaultsHere]
  | any items ih =>
      have hexplain : (Condition.any items).explain values = .error e ↔
          explainAny values items = .error e := by
        simp only [explain]
        cases explainAny values items <;> simp
      rw [hexplain, explainAny_eq_error_iff, comesTo_fault_iff ih]
      simp only [reaches_any_iff, or_and_right, exists_or]
      simp [FaultsHere]
  | unset =>
      refine iff_of_false (by simp [explain]) ?_
      intro h
      obtain ⟨x, hx, hfault⟩ := h
      cases hx
      exact hfault
  | conflicting xs ys =>
      simp only [explain, Except.error.injEq]
      constructor
      · intro h
        exact ⟨_, .here _, h.symm⟩
      · intro h
        obtain ⟨x, hx, hfault⟩ := h
        cases hx
        exact hfault.symm

end Condition

end Formwork
