import Formwork.Proofs.Condition.Parts

/-!
# What an evaluation reads

An evaluation looks up the paths of the rules that it comes to and reads nothing else of a
snapshot.  So two snapshots in which these paths lead to the same values are the same to a
condition.

* `explain_congr` — the same values at the paths of a condition give the same trace, or the
  same fault;
* `isVisible_congr` — and show or hide what is under the condition alike.
-/

namespace Formwork

namespace Condition

variable [PatternEngine] {v w : Snapshot}

/-- A group that needs all is explained in the same way where its members are. -/
theorem explainAll_congr {items : List Condition}
    (h : ∀ c ∈ items, c.explain v = c.explain w) : explainAll v items = explainAll w items := by
  induction items with
  | nil => rfl
  | cons c rest ih =>
      obtain ⟨hc, hrest⟩ := List.forall_mem_cons.mp h
      simp only [explainAll, hc, ih hrest]

/-- So is a group that needs any. -/
theorem explainAny_congr {items : List Condition}
    (h : ∀ c ∈ items, c.explain v = c.explain w) : explainAny v items = explainAny w items := by
  induction items with
  | nil => rfl
  | cons c rest ih =>
      obtain ⟨hc, hrest⟩ := List.forall_mem_cons.mp h
      simp only [explainAny, hc, ih hrest]

/-- An evaluation reads the paths of a condition only. -/
theorem explain_congr {c : Condition} (h : ∀ path ∈ c.paths, v.resolve? path = w.resolve? path) :
    c.explain v = c.explain w := by
  induction c using inductionOn with
  | rule r =>
      have hr := h r.field (List.mem_singleton_self _)
      simp only [explain, hr]
  | all items ih =>
      have hitems : explainAll v items = explainAll w items := explainAll_congr fun c hc =>
        ih c hc fun path hpath => h path (mem_pathsOf_iff.mpr ⟨c, hc, hpath⟩)
      simp only [explain, hitems]
  | any items ih =>
      have hitems : explainAny v items = explainAny w items := explainAny_congr fun c hc =>
        ih c hc fun path hpath => h path (mem_pathsOf_iff.mpr ⟨c, hc, hpath⟩)
      simp only [explain, hitems]
  | unset => rfl
  | conflicting xs ys => rfl

/-- A condition comes to the same where all paths that it mentions have the same values. -/
theorem evaluate_congr {c : Condition}
    (h : ∀ path ∈ c.paths, v.resolve? path = w.resolve? path) :
    c.evaluate v = c.evaluate w := by
  simp only [evaluate, explain_congr h]

end Condition

/-- What is under a condition is shown by the values at its paths only. -/
theorem isVisible_congr [PatternEngine] {condition : Option Condition} {v w : Snapshot}
    (h : ∀ c, condition = some c → ∀ path ∈ c.paths, v.resolve? path = w.resolve? path) :
    isVisible condition v = isVisible condition w := by
  cases condition with
  | none => rfl
  | some c => simp only [isVisible, Condition.evaluate_congr (h c rfl)]

end Formwork
