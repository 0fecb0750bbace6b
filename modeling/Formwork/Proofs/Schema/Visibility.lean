import Formwork.Pattern.Meaning
import Formwork.Proofs.Compilation.WellFormed
import Formwork.Proofs.Condition.Reads
import Formwork.Visibility

/-!
# What a verdict reads

The verdict on a field, that it is shown and why, is made of the trace of its condition.  So it
rests on the values at the paths of this condition, and a snapshot may be anything elsewhere.

* `FormField.visibility_congr` — the same values at the paths give the same verdict;
* `Schema.get?_visibility` — under the name of a field stands the verdict on this field;
* `verdicts_read_declared_paths` — what is not declared changes no trace, no fault, no verdict.
-/

namespace Formwork

/-- The verdict on a field reads the paths of its condition only. -/
theorem FormField.visibility_congr [PatternEngine] {f : FormField} {v w : Snapshot}
    (h : ∀ c, f.showWhen = some c → ∀ path ∈ c.paths, v.resolve? path = w.resolve? path) :
    f.visibility v = f.visibility w := by
  unfold visibility
  cases hc : f.showWhen with
  | none => rfl
  | some c => simp only [Condition.explain_congr (h c hc)]

/-- A field of a schema that has no other of its name has the verdict on itself. -/
theorem Schema.get?_visibility [PatternEngine] {s : Schema} (h : s.fields.Distinct) {name : String}
    {f : FormField} (hf : (name, f) ∈ s.fields) (values : Snapshot) :
    (s.visibility values).get? name = some (f.visibility values) := by
  unfold visibility
  rw [Entries.get?_mapValues, Entries.get?_of_mem h hf]
  rfl

/-- **An evaluation reads what is declared.**  Of two snapshots with the same values at the paths
that a condition mentions, the evaluation of the condition gives the same trace, or the same
fault.  So if they are the paths of the condition of a field in a compiled form, the field is
shown in both or in none, and for the same reason. -/
theorem verdicts_read_declared_paths [PatternEngine] :
    (∀ (c : Condition) (v w : Snapshot),
      (∀ path ∈ c.paths, v.resolve? path = w.resolve? path) → c.explain v = c.explain w) ∧
    ∀ (form : Form) (options : CompileOptions) (schema : Schema),
      form.compile options = .ok schema → ∀ name f c, (name, f) ∈ schema.fields →
      f.showWhen = some c → ∀ v w : Snapshot,
      (∀ path ∈ c.paths, v.resolve? path = w.resolve? path) →
        isVisible f.showWhen v = isVisible f.showWhen w ∧
        ∃ verdict, (schema.visibility v).get? name = some verdict ∧
          (schema.visibility w).get? name = some verdict := by
  refine ⟨fun c v w h => Condition.explain_congr h, ?_⟩
  intro form options schema h name f c hf hc v w hsame
  have hpaths : ∀ d, f.showWhen = some d → ∀ path ∈ d.paths,
      v.resolve? path = w.resolve? path := by
    intro d hd
    obtain rfl := Option.some.inj (hc.symm.trans hd)
    exact hsame
  have hdistinct := Form.distinct_of_compile h
  refine ⟨isVisible_congr hpaths, f.visibility v, Schema.get?_visibility hdistinct hf v, ?_⟩
  rw [FormField.visibility_congr hpaths]
  exact Schema.get?_visibility hdistinct hf w

/-- The city of a company is under the condition on the kind alone: a snapshot without a note and
one with the note ahead of the kind have the same trace, and show the city for the same reason. -/
theorem city_shown_whatever_the_note : ∃ schema verdict,
    companyForm.compile { naming := .dotted } = .ok schema ∧
      verdict = ⟨true, some "kind (was \"firm\") == \"firm\""⟩ ∧
      (schema.visibility [("kind", .text "firm")]).get? "company.seat.city" = some verdict ∧
      (schema.visibility [("note", .text "late"), ("kind", .text "firm")]).get?
        "company.seat.city" = some verdict := by
  have hcompile := Form.compile_eq_ok
    (show companyForm.fault? { naming := .dotted } = none by decide +kernel)
  have hcity : (cityLeaf.name .dotted, cityLeaf.compiled { naming := .dotted }) ∈
      companyForm.flatFields { naming := .dotted } :=
    Form.mem_flatFields_iff.mpr ⟨_, cityLeaf, companyForm_hasLeaf, rfl, rfl⟩
  obtain ⟨_, verdict, hshort, hlong⟩ := verdicts_read_declared_paths.2 companyForm _ _ hcompile
    _ _ (.rule ⟨"kind", .equal, some (.text "firm")⟩) hcity (by decide +kernel)
    [("kind", .text "firm")] [("note", .text "late"), ("kind", .text "firm")] (by decide +kernel)
  have hverdict : verdict = ⟨true, some "kind (was \"firm\") == \"firm\""⟩ := by
    refine Option.some.inj (hshort.symm.trans ?_)
    decide +kernel
  exact ⟨_, verdict, hcompile, hverdict, hshort, hlong⟩

end Formwork
