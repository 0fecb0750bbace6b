import Formwork.Pattern.Meaning
import Formwork.Proofs.Compilation.Flattening
import Formwork.Proofs.Condition.Meaning

/-!
# What a compiled field is shown under

The **guards** of a leaf are the conditions of the groups around it, the outermost first,
and its own.  The flat form knows nothing of groups: it has one condition for a field,
which must say the same as the guards read in order.  Reading stops at the first guard
that does not hold; if that one cannot be evaluated, the field is shown.

* `evaluate_all_eq_true_iff` and `evaluate_all_eq_error_iff` — conditions as one;
* `isVisible_combined_iff` — guards as one condition, whatever their number;
* `compiled_isVisible_iff` — a compiled field is shown exactly if its guards let it.
-/

namespace Formwork

namespace Condition

variable [PatternEngine] {values : Snapshot} {items : List Condition}

/-- A group of which all members are to hold does so if each of them does. -/
theorem evaluate_all_eq_true_iff :
    (Condition.all items).evaluate values = .ok true ↔
      ∀ c ∈ items, c.evaluate values = .ok true := by
  rw [evaluate_all_iff]
  simp [ReadUpTo]

/-- A group of which all members are to hold faults with the first that does not. -/
theorem evaluate_all_eq_error_iff {e : EvaluationFault} :
    (Condition.all items).evaluate values = .error e ↔
      ComesTo (fun b => b.evaluate values = .ok true) (fun c => c.evaluate values = .error e)
        items := by
  rw [evaluate_all_iff]
  simp [ReadUpTo]

omit [PatternEngine] in
/-- It makes no difference whether a fault is named before or after it is found. -/
theorem exists_comesTo_iff {passed : Condition → Prop}
    {found : EvaluationFault → Condition → Prop} :
    (∃ e, ComesTo passed (found e) items) ↔ ComesTo passed (fun c => ∃ e, found e c) items := by
  constructor
  · intro h
    obtain ⟨e, before, c, after, hitems, hbefore, hc⟩ := h
    exact ⟨before, c, after, hitems, hbefore, e, hc⟩
  · intro h
    obtain ⟨before, c, after, hitems, hbefore, e, hc⟩ := h
    exact ⟨e, before, c, after, hitems, hbefore, hc⟩

/-- A control under a condition is shown if the condition holds or cannot be evaluated. -/
theorem isVisible_some_iff {c : Condition} : isVisible (some c) values = true ↔
    c.evaluate values = .ok true ∨ ∃ e, c.evaluate values = .error e := by
  unfold isVisible
  cases h : c.evaluate values <;> simp [h]

/-- Guards read in order let a field be shown: all of them hold, or the first that does
not cannot be evaluated. -/
def LetShow (values : Snapshot) (guards : List Condition) : Prop :=
  (∀ c ∈ guards, c.evaluate values = .ok true) ∨
    ComesTo (fun c => c.evaluate values = .ok true) (fun c => ∃ e, c.evaluate values = .error e)
      guards

/-- Guards that are made one condition show what they show when read in order. -/
theorem isVisible_combined_iff (guards : List Condition) :
    isVisible (Leaf.combined guards) values = true ↔ LetShow values guards := by
  unfold LetShow
  match guards with
  | [] => simp [Leaf.combined, isVisible]
  | [c] => simp [Leaf.combined, isVisible_some_iff, comesTo_cons, not_comesTo_nil]
  | c :: d :: rest =>
      have hcombined : Leaf.combined (c :: d :: rest) = some (.all (c :: d :: rest)) := rfl
      rw [hcombined, isVisible_some_iff, evaluate_all_eq_true_iff, ← exists_comesTo_iff]
      simp only [evaluate_all_eq_error_iff]

/-- Where no guard faults, the guards are a conjunction. -/
theorem letShow_iff_of_no_fault {guards : List Condition}
    (h : ∀ c ∈ guards, ∀ e, c.evaluate values ≠ .error e) :
    LetShow values guards ↔ ∀ c ∈ guards, c.evaluate values = .ok true := by
  refine or_iff_left ?_
  intro hfault
  obtain ⟨before, c, after, rfl, _, e, hc⟩ := hfault
  exact h c (by simp) e hc

end Condition

namespace Form

variable [PatternEngine] {form : Form} {options : CompileOptions} {schema : Schema}

/-- A leaf of a form that compiles is found in the flat form by its name. -/
theorem get?_name_of_compile (h : form.compile options = .ok schema) {position : Position}
    {l : Leaf} (hl : form.HasLeaf position l) :
    schema.fields.get? (l.name options.naming) = some (l.compiled options) := by
  refine Entries.get?_of_mem (distinct_of_compile h) ?_
  rw [(fields_of_compile h).2]
  exact List.mem_map_of_mem (form.mem_leaves_iff.mpr ⟨position, hl⟩)

/-- **The flat form shows what the tree shows.**  Of a form that compiles, every leaf has
a field, and in every snapshot this field is shown exactly if the conditions of the groups
around the leaf, from the outermost inwards, and its own after them let it: all of them
hold, or the first that does not cannot be evaluated. -/
theorem compiled_isVisible_iff (h : form.compile options = .ok schema) {position : Position}
    {l : Leaf} (hl : form.HasLeaf position l) :
    ∃ f, schema.fields.get? (l.name options.naming) = some f ∧ ∀ values,
      let guards := l.scope.filterMap (fun g => g.2.showWhen) ++ l.field.showWhen.toList
      (isVisible f.showWhen values = true ↔
        (∀ c ∈ guards, c.evaluate values = .ok true) ∨
          Condition.ComesTo (fun c => c.evaluate values = .ok true)
            (fun c => ∃ e, c.evaluate values = .error e) guards) ∧
      ((∀ c ∈ guards, ∀ e, c.evaluate values ≠ .error e) →
        (isVisible f.showWhen values = true ↔ ∀ c ∈ guards, c.evaluate values = .ok true)) := by
  refine ⟨_, get?_name_of_compile h hl, ?_⟩
  intro values guards
  have hshown : isVisible (l.compiled options).showWhen values = true ↔
      Condition.LetShow values guards := Condition.isVisible_combined_iff guards
  refine ⟨hshown, ?_⟩
  intro hfault
  rw [hshown]
  exact Condition.letShow_iff_of_no_fault hfault

end Form

/-- A rule on the kind that cannot be evaluated, its pattern being none. -/
def kindMatchesNothing : Condition := .rule ⟨"kind", .matching, some (.list [.text "("])⟩

/-- A rule that asks for a firm. -/
def kindIsFirm : Condition := .rule ⟨"kind", .equal, some (.text "firm")⟩

/-- A field in a group in a group, each with a condition. -/
def twiceGuarded (outer inner : Condition) : Form :=
  [("kind", .field { kind := .select }),
    ("company", .group { showWhen := some outer }
      [("seat", .group { showWhen := some inner } [("city", .field { kind := .text })])])]

/-- The field in the inner group. -/
def twiceGuardedCity (outer inner : Condition) : Leaf where
  scope := [("company", { showWhen := some outer }), ("seat", { showWhen := some inner })]
  key := "city"
  field := { kind := .text }

theorem twiceGuarded_hasLeaf (outer inner : Condition) :
    (twiceGuarded outer inner).HasLeaf [1, 0, 0] (twiceGuardedCity outer inner) :=
  .inside rfl (.inside rfl (.field rfl))

/-- For a shop, a fault around a condition that does not hold shows the field; the same
condition around the fault hides it. -/
theorem order_of_guards_counts :
    (∃ schema f, (twiceGuarded kindMatchesNothing kindIsFirm).compile {} = .ok schema ∧
      schema.fields.get? "city" = some f ∧
        isVisible f.showWhen [("kind", .text "shop")] = true) ∧
    ∃ schema f, (twiceGuarded kindIsFirm kindMatchesNothing).compile {} = .ok schema ∧
      schema.fields.get? "city" = some f ∧
        isVisible f.showWhen [("kind", .text "shop")] = false := by
  have hfault : ∃ e, kindMatchesNothing.evaluate [("kind", .text "shop")] = .error e :=
    ⟨.invalidPattern "(", by decide +kernel⟩
  have hfalse : kindIsFirm.evaluate [("kind", .text "shop")] = .ok false := by decide +kernel
  constructor
  · have hcompile := Form.compile_eq_ok
      (show (twiceGuarded kindMatchesNothing kindIsFirm).fault? {} = none by decide +kernel)
    obtain ⟨f, hf, hshown⟩ :=
      Form.compiled_isVisible_iff hcompile (twiceGuarded_hasLeaf _ _)
    refine ⟨_, f, hcompile, hf, (hshown _).1.mpr (Or.inr ?_)⟩
    exact ⟨[], _, [kindIsFirm], rfl, by simp, hfault⟩
  · have hcompile := Form.compile_eq_ok
      (show (twiceGuarded kindIsFirm kindMatchesNothing).fault? {} = none by decide +kernel)
    obtain ⟨f, hf, hshown⟩ :=
      Form.compiled_isVisible_iff hcompile (twiceGuarded_hasLeaf _ _)
    refine ⟨_, f, hcompile, hf, ?_⟩
    rw [← Bool.not_eq_true, (hshown _).1]
    intro hguards
    rcases hguards with hall | hfault
    · have htrue := hall kindIsFirm (by simp [twiceGuardedCity])
      simp [hfalse] at htrue
    · rcases Condition.comesTo_cons.mp hfault with ⟨e, he⟩ | ⟨htrue, _⟩
      · simp [hfalse] at he
      · simp [hfalse] at htrue

end Formwork
