import Formwork.Pattern.Meaning
import Formwork.Proofs.Compilation.Faults
import Formwork.Proofs.Compilation.Positions
import Mathlib.Data.List.Forall2

/-!
# What becomes of the fields of a form

A compiled form has one field for every leaf of the tree, in the order of their
positions, and for every field a rule.  What a field inherits comes from the groups
around it: its name may be made of their keys, and the nearest step around applies where
it gives none of its own.

* `firstDuplicate?_eq_none_iff` and `sublist_of_firstDuplicate?` — names that are used twice;
* `inheritedStep_eq_some_iff` — the nearest of the steps around;
* `Leaf.Becomes` — a field as it is to be in the flat form; `becomes_compiled` says that it is;
* `compiled_in_preorder` — a compiled form holds what becomes of each leaf, once and in order.
-/

namespace Formwork

/-! ## Names -/

section Names

variable {naming : Naming}

/-- No name is found twice exactly if all names differ, those seen before included. -/
theorem firstDuplicate?_eq_none_iff {seen rest : List Leaf}
    (hseen : (seen.map fun l => l.name naming).Nodup) :
    firstDuplicate? naming seen rest = none ↔
      ((seen ++ rest).map fun l => l.name naming).Nodup := by
  induction rest generalizing seen with
  | nil => simpa [firstDuplicate?] using hseen
  | cons l rest ih =>
      unfold firstDuplicate?
      cases hfind : seen.find? fun s => s.name naming = l.name naming with
      | some s =>
          refine iff_of_false (by simp) ?_
          intro hnodup
          have hs : s ∈ seen := List.mem_of_find?_eq_some hfind
          have hname : s.name naming = l.name naming := by simpa using List.find?_some hfind
          rw [List.map_append, List.nodup_append] at hnodup
          exact hnodup.2.2 _ (List.mem_map_of_mem hs) _ (by simp) hname
      | none =>
          have hnew : ∀ s ∈ seen, s.name naming ≠ l.name naming := by
            simpa using List.find?_eq_none.mp hfind
          -- with a name that is new, the names seen so far stay distinct
          have hsnoc : ((seen ++ [l]).map fun l => l.name naming).Nodup := by
            rw [List.map_append, List.nodup_append]
            refine ⟨hseen, by simp, ?_⟩
            intro a ha b hb
            obtain ⟨s, hs, rfl⟩ := List.mem_map.mp ha
            obtain rfl : b = l.name naming := by simpa using hb
            exact hnew s hs
          simpa using ih hsnoc

/-- Of two leaves with one name, the one that is listed first is told first. -/
theorem sublist_of_firstDuplicate? {seen rest : List Leaf} {e : DefinitionFault}
    (h : firstDuplicate? naming seen rest = some e) :
    ∃ l m : Leaf, [l, m].Sublist (seen ++ rest) ∧ l.name naming = m.name naming ∧
      e = .duplicateFieldName (m.name naming) l.path m.path := by
  induction rest generalizing seen with
  | nil => simp [firstDuplicate?] at h
  | cons m rest ih =>
      unfold firstDuplicate? at h
      cases hfind : seen.find? fun s => s.name naming = m.name naming with
      | some l =>
          have hl : [l].Sublist seen :=
            List.singleton_sublist.mpr (List.mem_of_find?_eq_some hfind)
          have hm : [m].Sublist (m :: rest) := List.singleton_sublist.mpr List.mem_cons_self
          have hname : l.name naming = m.name naming := by simpa using List.find?_some hfind
          rw [hfind] at h
          exact ⟨l, m, hl.append hm, hname, (Option.some.inj h).symm⟩
      | none =>
          rw [hfind] at h
          simpa using ih h

end Names

/-! ## Steps -/

/-- The groups around give this step, the nearest of those that give one. -/
def NearestStep (scope : Scope) (s : Nat) : Prop :=
  ∃ outer g inner, scope = outer ++ g :: inner ∧ g.2.step = some s ∧
    ∀ h ∈ inner, h.2.step = none

namespace Leaf

/-- The step that is passed on is that of the nearest group that has one. -/
theorem inheritedStep_eq_some_iff (l : Leaf) (s : Nat) :
    l.inheritedStep = some s ↔ NearestStep l.scope s := by
  unfold inheritedStep NearestStep
  rw [List.findSome?_eq_some_iff]
  constructor
  · intro h
    obtain ⟨inner, g, outer, hscope, hg, hinner⟩ := h
    refine ⟨outer.reverse, g, inner.reverse, ?_, hg, ?_⟩
    · simpa using congrArg List.reverse hscope
    · intro h hh
      exact hinner h (List.mem_reverse.mp hh)
  · intro h
    obtain ⟨outer, g, inner, hscope, hg, hinner⟩ := h
    refine ⟨inner.reverse, g, outer.reverse, by simp [hscope], hg, ?_⟩
    intro h hh
    exact hinner h (List.mem_reverse.mp hh)

/-! ## One field -/

/-- What a field is to be in the flat form, and under which name. -/
structure Becomes (l : Leaf) (options : CompileOptions) (name : String) (f : FormField) :
    Prop where
  name_eq : name = match options.naming with
    | .flat => l.key
    | .dotted => ".".intercalate (l.scope.map Prod.fst ++ [l.key])
  named : f.name = some name
  step_iff : ∀ s, f.step = some s ↔ l.field.step = some s ∨
    (l.field.step = none ∧ options.inheritStep = true ∧ NearestStep l.scope s)
  step_ne_zero : f.step ≠ some 0
  rest_eq : f = { l.field with name := f.name, step := f.step, showWhen := f.showWhen }

variable {l : Leaf} {options : CompileOptions}

/-- A field has its own step, or else the one passed on to it if steps are to be. -/
theorem compiled_step_eq_some_iff (s : Nat) : (l.compiled options).step = some s ↔
    l.field.step = some s ∨
      (l.field.step = none ∧ options.inheritStep = true ∧ NearestStep l.scope s) := by
  rw [← inheritedStep_eq_some_iff]
  cases hinherit : options.inheritStep with
  | false => simp [compiled, hinherit]
  | true => cases hstep : l.field.step <;> simp [compiled, hinherit, hstep]

/-- A field becomes what it is to be if no step around is 0. -/
theorem becomes_compiled (hstep : l.field.step ≠ some 0)
    (hscope : ∀ g ∈ l.scope, g.2.step ≠ some 0) :
    l.Becomes options (l.name options.naming) (l.compiled options) where
  name_eq := by
    unfold name
    cases options.naming <;> rfl
  named := rfl
  step_iff := compiled_step_eq_some_iff
  step_ne_zero := by
    rw [Ne, compiled_step_eq_some_iff]
    intro h
    rcases h with hown | ⟨_, _, outer, g, inner, hsplit, hg, _⟩
    · exact hstep hown
    · exact hscope g (by simp [hsplit]) hg
  rest_eq := rfl

end Leaf

/-! ## Places -/

/-- A place is without fault if its step is not zero and, for a leaf, its key is not blank. -/
theorem Place.fault?_eq_none_iff {place : Place} : place.fault? = none ↔
    place.step ≠ some 0 ∧ ∀ l, place = .leaf l → isBlankText l.key = false := by
  cases place with
  | group scope key settings => simp [fault?, step]
  | leaf l =>
      by_cases hstep : l.field.step = some 0
      · simp [fault?, step, hstep]
      · simp [fault?, step, hstep]

/-! ## The compiled form -/

namespace Form

variable {form : Form} {options : CompileOptions} {schema : Schema}

/-- No fault is found with the places of a form exactly if all are without. -/
theorem placeFault?_eq_none_iff : form.placeFault? = none ↔
    ∀ position place, form.HasPlace position place → place.fault? = none := by
  unfold placeFault?
  rw [List.findSome?_eq_none_iff]
  constructor
  · intro h position place hplace
    exact h place (form.mem_places_iff.mpr ⟨position, hplace⟩)
  · intro h place hplace
    obtain ⟨position, hposition⟩ := form.mem_places_iff.mp hplace
    exact h position place hposition

/-- The names of the flat form are those of its leaves, in their order. -/
theorem keys_flatFields : (form.flatFields options).keys =
    form.leaves.map fun l => l.name options.naming := by
  simp [flatFields, Entries.keys, Function.comp_def]

/-- No two fields have one name exactly if no duplicate is found. -/
theorem distinct_flatFields_iff : (form.flatFields options).Distinct ↔
    firstDuplicate? options.naming [] form.leaves = none := by
  rw [firstDuplicate?_eq_none_iff (by simp), Entries.Distinct, keys_flatFields, List.nil_append]

variable [PatternEngine]

/-- A form is without fault if each of the passes over it finds none. -/
theorem fault?_eq_none_iff : form.fault? options = none ↔
    form.placeFault? = none ∧ firstDuplicate? options.naming [] form.leaves = none ∧
      form.fieldFault? options = none ∧ form.cycleFault? options = none := by
  simp only [fault?, Option.or_eq_none_iff]

/-- The rules of a compiled form are those of its fields, in their order. -/
theorem rules_of_compile (h : form.compile options = .ok schema) :
    schema.rules = (form.flatFields options).map fun (name, f) => (name, f.rule) := by
  have hok := compile_eq_ok (fields_of_compile h).1
  rw [h] at hok
  rw [Except.ok.inj hok]

/-- A form that compiles has no step 0 anywhere. -/
theorem step_ne_zero_of_compile (h : form.compile options = .ok schema) {position : Position}
    {place : Place} (hplace : form.HasPlace position place) : place.step ≠ some 0 := by
  have hfault := (fault?_eq_none_iff.mp (fields_of_compile h).1).1
  exact (Place.fault?_eq_none_iff.mp (placeFault?_eq_none_iff.mp hfault _ _ hplace)).1

/-- A leaf of a form that compiles becomes what it is to be. -/
theorem HasLeaf.becomes (h : form.compile options = .ok schema) {position : Position} {l : Leaf}
    (hl : form.HasLeaf position l) :
    l.Becomes options (l.name options.naming) (l.compiled options) := by
  refine Leaf.becomes_compiled (step_ne_zero_of_compile h hl) ?_
  intro g hg
  obtain ⟨q, outer, hgroup⟩ := hl.group_of_mem_scope hg
  exact step_ne_zero_of_compile h hgroup

/-- A form that compiles has no two fields of one name. -/
theorem distinct_of_compile (h : form.compile options = .ok schema) :
    schema.fields.Distinct := by
  obtain ⟨hfault, hfields⟩ := fields_of_compile h
  rw [hfields]
  exact distinct_flatFields_iff.mpr (fault?_eq_none_iff.mp hfault).2.1

/-- **A compiled form is the list of its leaves.**  All leaves of the tree, each at its
position and in the order of the positions, become the fields of the compiled form one by
one.  No name is used twice, and the rules are those of the same leaves in the same
order. -/
theorem compiled_in_preorder (h : form.compile options = .ok schema) :
    ∃ spots : List (Position × Leaf),
      spots.Pairwise (fun a b => a.1 < b.1) ∧
      (∀ position l, (position, l) ∈ spots ↔ form.HasLeaf position l) ∧
      List.Forall₂ (fun spot entry => spot.2.Becomes options entry.1 entry.2)
        spots schema.fields ∧
      schema.fields.Distinct ∧
      schema.rules.keys = schema.fields.keys ∧
      List.Forall₂ (fun spot entry =>
          entry.2.constraint = spot.2.field.validation.getD .any ∧
          (entry.2.isOptional = true ↔ spot.2.field.isRequired = false))
        spots schema.rules := by
  have hfields := (fields_of_compile h).2
  have hrules := rules_of_compile h
  refine ⟨form.numberedLeaves, form.pairwise_numberedLeaves,
    fun _ _ => form.mem_numberedLeaves_iff, ?_, distinct_of_compile h, ?_, ?_⟩
  · rw [hfields, flatFields, ← map_snd_numberedLeaves, List.map_map, List.forall₂_map_right_iff,
      List.forall₂_same]
    intro spot hspot
    have hleaf := form.mem_numberedLeaves_iff.mp hspot
    refine Leaf.becomes_compiled (step_ne_zero_of_compile h hleaf) ?_
    intro g hg
    obtain ⟨q, outer, hgroup⟩ := hleaf.group_of_mem_scope hg
    exact step_ne_zero_of_compile h hgroup
  · simp [hrules, hfields, Entries.keys, Function.comp_def]
  · rw [hrules, flatFields, ← map_snd_numberedLeaves, List.map_map, List.map_map,
      List.forall₂_map_right_iff, List.forall₂_same]
    intro spot _
    simp [FormField.rule, Leaf.compiled]

end Form

/-- A form with groups in a group, of which one gives a step and a condition. -/
def companyForm : Form :=
  [("kind", .field { kind := .select }),
    ("company", .group
      { step := some 2, showWhen := some (.rule ⟨"kind", .equal, some (.text "firm")⟩) }
      [("vat", .field { kind := .text, name := some "tax", isRequired := true }),
        ("seat", .group {} [("city", .field { kind := .text, step := some 3 })])]),
    ("note", .field { kind := .textarea })]

/-- The city, in the group for the seat of the company. -/
def cityLeaf : Leaf where
  scope := [("company",
      { step := some 2, showWhen := some (.rule ⟨"kind", .equal, some (.text "firm")⟩) }),
    ("seat", {})]
  key := "city"
  field := { kind := .text, step := some 3 }

theorem companyForm_hasLeaf : companyForm.HasLeaf [1, 1, 0] cityLeaf :=
  .inside rfl (.inside rfl (.field rfl))

/-- The four leaves become fields in their order, the city under the keys of its groups. -/
theorem company_in_preorder : ∃ schema,
    companyForm.compile { naming := .dotted } = .ok schema ∧
      schema.fields.keys = ["kind", "company.vat", "company.seat.city", "note"] ∧
      ∃ spots : List (Position × Leaf), spots.length = 4 ∧ ([1, 1, 0], cityLeaf) ∈ spots ∧
        List.Forall₂ (fun spot entry => spot.2.Becomes { naming := .dotted } entry.1 entry.2)
          spots schema.fields := by
  have hcompile := Form.compile_eq_ok
    (show companyForm.fault? { naming := .dotted } = none by decide +kernel)
  obtain ⟨spots, _, hmem, hbecomes, _⟩ := Form.compiled_in_preorder hcompile
  refine ⟨_, hcompile, by decide +kernel, spots, ?_, ?_, hbecomes⟩
  · rw [hbecomes.length_eq]
    decide +kernel
  · exact (hmem _ _).mpr companyForm_hasLeaf

end Formwork
