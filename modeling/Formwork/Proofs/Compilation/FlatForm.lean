import Formwork.Pattern.Meaning
import Formwork.Proofs.Compilation.Naming

/-!
# Compiled forms as forms

The fields of a compiled form, each under its name, are a form again, one without groups.  A
field that no group is around inherits nothing, so compilation leaves it as it is, and what was
found sound of the fields, their names, their conditions and the dependencies between them is
found once more.  A form therefore compiles to itself once it was compiled.

* `Schema.toForm` — the fields of a schema as a form;
* `Leaf.compiled_of_named` — a field without groups that has its name is compiled to itself;
* `flatFields_toForm` — so the fields of a form without groups are the fields it was made of;
* `placeFault?_toForm` — nothing is wrong with the places of a form that was compiled;
* `compile_toForm` — compilation is idempotent.
-/

namespace Formwork

/-- The fields of a schema as a form without groups, each under its name. -/
def Schema.toForm (s : Schema) : Form := s.fields.mapValues .field

/-! ## A field that no group is around -/

/-- A field at the top of a form. -/
def Leaf.atTop (entry : String × FormField) : Leaf := ⟨[], entry.1, entry.2⟩

namespace Leaf

variable {entry : String × FormField} {options : CompileOptions}

/-- A field that no group is around has its key for a name. -/
theorem name_atTop (entry : String × FormField) (naming : Naming) :
    (atTop entry).name naming = entry.1 := by
  cases naming with
  | flat => rfl
  | dotted => exact dotted_singleton entry.1

/-- It has its own condition and no other. -/
theorem conditions_atTop (entry : String × FormField) :
    combined (atTop entry).conditions = entry.2.showWhen := by
  unfold conditions atTop
  cases entry.2.showWhen with
  | none => rfl
  | some c => rfl

/-- It has its own step. -/
theorem step_atTop (entry : String × FormField) (options : CompileOptions) :
    ((atTop entry).compiled options).step = entry.2.step := by
  have hnone : (atTop entry).inheritedStep = none := rfl
  unfold compiled
  rw [hnone, Option.or_none]
  exact ite_self _

/-- Where no group is around, a field that has its name stays as it is. -/
theorem compiled_of_named (h : entry.2.name = some entry.1) :
    (atTop entry).compiled options = entry.2 := by
  calc (atTop entry).compiled options
      = { entry.2 with
          name := some ((atTop entry).name options.naming)
          step := ((atTop entry).compiled options).step
          showWhen := combined (atTop entry).conditions } := rfl
    _ = { entry.2 with
          name := entry.2.name
          step := entry.2.step
          showWhen := entry.2.showWhen } := by
        rw [name_atTop, step_atTop, conditions_atTop, h]

end Leaf

/-! ## A form without groups -/

namespace Form

variable {form : Form} {options : CompileOptions} {schema : Schema}

/-- The places of a form made of a schema are its fields. -/
theorem places_toForm (s : Schema) :
    s.toForm.places = s.fields.map fun entry => .leaf (.atTop entry) := by
  unfold places Schema.toForm
  induction s.fields with
  | nil => rfl
  | cons entry rest ih => exact congrArg (.leaf (.atTop entry) :: ·) ih

/-- So are its leaves. -/
theorem leaves_toForm (s : Schema) : s.toForm.leaves = s.fields.map .atTop := by
  unfold leaves
  rw [places_toForm, List.filterMap_map]
  exact congrFun List.filterMap_eq_map s.fields

/-- Compiled again, fields that have their names are the same fields. -/
theorem flatFields_toForm (h : ∀ entry ∈ schema.fields, entry.2.name = some entry.1) :
    schema.toForm.flatFields options = schema.fields := by
  have hsame : ∀ entry ∈ schema.fields, ((Leaf.atTop entry).name options.naming,
      (Leaf.atTop entry).compiled options) = entry := by
    intro entry hentry
    rw [Leaf.name_atTop, Leaf.compiled_of_named (h entry hentry)]
  unfold flatFields
  rw [leaves_toForm, List.map_map]
  exact (List.map_congr_left hsame).trans (List.map_id _)

/-- No two of them have one key if no two fields have one name. -/
theorem keysDistinct_toForm (h : schema.fields.Distinct) : KeysDistinct schema.toForm := by
  refine .intro ?_ ?_
  · unfold Schema.toForm Entries.mapValues Entries.Distinct Entries.keys
    rw [List.map_map]
    exact h
  · intro key settings inner hgroup
    obtain ⟨entry, _, hfield⟩ := List.mem_map.mp hgroup
    cases (Prod.mk.inj hfield).2

/-! ## A form that was compiled -/

variable [PatternEngine]

/-- The fields of a compiled form have their names. -/
theorem named_of_compile (h : form.compile options = .ok schema) :
    ∀ entry ∈ schema.fields, entry.2.name = some entry.1 := by
  intro entry hentry
  obtain ⟨position, l, _, hl⟩ := becomes_of_compile h hentry
  exact hl.named

/-- Nothing is wrong with the fields of a compiled form at the places where they stand. -/
theorem placeFault?_toForm (h : form.compile options = .ok schema) :
    schema.toForm.placeFault? = none := by
  obtain ⟨hfault, hfields⟩ := fields_of_compile h
  have hplaces := placeFault?_eq_none_iff.mp (fault?_eq_none_iff.mp hfault).1
  unfold placeFault?
  rw [List.findSome?_eq_none_iff, places_toForm]
  intro place hplace
  obtain ⟨entry, hentry, rfl⟩ := List.mem_map.mp hplace
  rw [hfields] at hentry
  obtain ⟨position, l, hl, hname, hf⟩ := mem_flatFields_iff.mp hentry
  have hstep : entry.2.step ≠ some 0 := by
    rw [← hf]
    exact (hl.becomes h).step_ne_zero
  have hkey : isBlankText entry.1 = false := by
    rw [← hname]
    exact Leaf.isBlankText_name ((Place.fault?_eq_none_iff.mp (hplaces position _ hl)).2 l rfl) _
  refine Place.fault?_eq_none_iff.mpr ⟨hstep, ?_⟩
  intro top htop
  rwa [← Place.leaf.inj htop]

/-- **A form that was compiled compiles to itself.**  The fields of a compiled form, each under
its name, are a form in which every key stands for one node.  With the same settings it compiles
to the same schema, the same fields in the same order and the same rules, and nothing is said
about the form as a whole, neither now nor before. -/
theorem compile_toForm (form : Form) (options : CompileOptions) (schema : Schema)
    (h : form.compile options = .ok schema) :
    KeysDistinct schema.toForm ∧ schema.toForm.compile options = .ok schema ∧
      schema.info = {} := by
  obtain ⟨hfault, hfields⟩ := fields_of_compile h
  obtain ⟨_, _, hfield, hcycle⟩ := fault?_eq_none_iff.mp hfault
  have hsame : schema.toForm.flatFields options = schema.fields :=
    flatFields_toForm (named_of_compile h)
  have hagain : schema.toForm.fault? options = none := by
    refine fault?_eq_none_iff.mpr ⟨placeFault?_toForm h, ?_, ?_, ?_⟩
    · rw [← distinct_flatFields_iff, hsame]
      exact distinct_of_compile h
    · unfold fieldFault?
      rw [hsame, hfields]
      exact hfield
    · unfold cycleFault?
      rw [hsame, hfields]
      exact hcycle
  refine ⟨keysDistinct_toForm (distinct_of_compile h), ?_, ?_⟩
  · rw [compile_eq_ok hagain, hsame, hfields, ← compile_eq_ok hfault]
    exact h
  · rw [compile_eq_ok hfault] at h
    rw [← Except.ok.inj h]

end Form

/-- The firm's fields, with the step and the condition of the group around them, are a form of
four keys that compiles to the same fields. -/
theorem company_compiles_again : ∃ schema,
    companyForm.compile { naming := .dotted } = .ok schema ∧
      schema.toForm.keys = ["kind", "company.vat", "company.seat.city", "note"] ∧
      schema.toForm.compile { naming := .dotted } = .ok schema ∧ schema.info = {} := by
  have hcompile := Form.compile_eq_ok
    (show companyForm.fault? { naming := .dotted } = none by decide +kernel)
  obtain ⟨_, hagain, hinfo⟩ := Form.compile_toForm companyForm { naming := .dotted } _ hcompile
  exact ⟨_, hcompile, by decide +kernel, hagain, hinfo⟩

end Formwork
