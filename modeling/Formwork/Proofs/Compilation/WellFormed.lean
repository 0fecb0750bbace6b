import Formwork.Pattern.Meaning
import Formwork.Proofs.Compilation.Cycle
import Formwork.Proofs.Compilation.Defects
import Formwork.Proofs.Compilation.Flattening
import Mathlib.Data.List.TakeWhile

/-!
# Which forms compile

A form is well-formed if its places, its names, the patterns and conditions of its leaves
and the dependencies between them are in order.  All of this is said of the tree, by the
positions in it, and not of the lists that compilation goes through.

* `Form.WellFormed` — what is asked of a form;
* `Form.HasDefect` — what can be wrong with a form, and where; a well-formed form has no
  defect (`WellFormed.not_hasDefect`);
* `hasDefect_of_fault?` and `wellFormed_of_fault?_eq_none` — what compilation reports is a
  defect of the form, and a form of which it reports nothing is well-formed;
* `compile_decides_wellFormed` — compilation accepts the well-formed forms and no others.
-/

namespace Formwork

open Relation (TransGen)

namespace Form

/-! ## What is asked of a form -/

section Definitions

variable [PatternEngine] (form : Form) (options : CompileOptions)

/-- Some leaf has this name when it is compiled. -/
def HasName (name : String) : Prop :=
  ∃ position l, form.HasLeaf position l ∧ l.name options.naming = name

/-- A path in a condition belongs to a leaf, if paths have to. -/
def Owned (path : String) : Prop :=
  HasOwner (form.HasName options) options.allowUnknownFields path

/-- Whether `a` is shown depends on the value of `b`: a condition of `a` itself or of a
group around it has a rule whose path belongs to `b`. -/
def DependsOn (a b : String) : Prop :=
  ∃ position l c r, form.HasLeaf position l ∧ l.name options.naming = a ∧
    Leaf.combined l.conditions = some c ∧ c.HasPart (.rule r) ∧
    IsOwner (form.HasName options) r.field b

/-- What a form is like if nothing is wrong with it. -/
structure WellFormed : Prop where
  step_ne_zero : ∀ position place, form.HasPlace position place → place.step ≠ some 0
  key_ne_blank : ∀ position l, form.HasLeaf position l → trimBlanks l.key.toList ≠ []
  name_unique : ∀ p q l m, form.HasLeaf p l → form.HasLeaf q m →
    l.name options.naming = m.name options.naming → p = q
  pattern_valid : ∀ position l constraint pattern, form.HasLeaf position l →
    l.field.validation = some constraint → constraint.pattern? = some pattern →
    Pattern.isValid pattern = true
  condition_sound : ∀ position l c x, form.HasLeaf position l →
    Leaf.combined l.conditions = some c → c.HasPart x → x.IsSound (form.Owned options)
  acyclic : ∀ name, ¬ TransGen (form.DependsOn options) name name

/-- What can be wrong with a form: the defects of a place, of two leaves with one name, the
one that comes first told first, of the pattern or the condition of a leaf, and of several
leaves that depend on each other. -/
inductive HasDefect : DefinitionFault → Prop
  | step {position : Position} {place : Place} (hplace : form.HasPlace position place)
      (hstep : place.step = some 0) : HasDefect (.invalidStep place.path 0)
  | key {position : Position} {l : Leaf} (hl : form.HasLeaf position l)
      (hkey : trimBlanks l.key.toList = []) : HasDefect (.emptyFieldName l.path)
  | name {p q : Position} {l m : Leaf} (hl : form.HasLeaf p l) (hm : form.HasLeaf q m)
      (hlt : p < q) (hname : l.name options.naming = m.name options.naming) :
      HasDefect (.duplicateFieldName (m.name options.naming) l.path m.path)
  | pattern {position : Position} {l : Leaf} {constraint : Constraint} {pattern : String}
      (hl : form.HasLeaf position l) (hvalidation : l.field.validation = some constraint)
      (hpattern : constraint.pattern? = some pattern)
      (hinvalid : Pattern.isValid pattern = false) :
      HasDefect (.invalidFieldPattern (l.name options.naming) pattern)
  | condition {position : Position} {l : Leaf} {c x : Condition} {e : DefinitionFault}
      (hl : form.HasLeaf position l) (hc : Leaf.combined l.conditions = some c)
      (hx : c.HasPart x) (he : x.HasDefect (form.Owned options) (l.name options.naming) e) :
      HasDefect e
  | cycle {path : List String} (hcycle : IsCycle (form.DependsOn options) path) :
      HasDefect (.conditionCycle path)

end Definitions

variable {form : Form} {options : CompileOptions}

/-- Nothing is left of a text without its outer blanks exactly if it is blank. -/
theorem trimBlanks_eq_nil_iff (s : String) :
    trimBlanks s.toList = [] ↔ isBlankText s = true := by
  unfold trimBlanks isBlankText
  rw [List.reverse_eq_nil_iff, List.dropWhile_eq_nil_iff, List.all_eq_true]
  simp only [List.mem_reverse]
  constructor
  · intro h c hc
    rw [← List.takeWhile_append_dropWhile (p := isBlank) (l := s.toList)] at hc
    rcases List.mem_append.mp hc with hc | hc
    · exact List.mem_takeWhile_imp hc
    · exact h c hc
  · intro h c hc
    exact h c ((List.dropWhile_suffix _).subset hc)

/-! ## The flat form and the tree -/

/-- The fields of the flat form are what becomes of the leaves of the tree. -/
theorem mem_flatFields_iff {name : String} {f : FormField} :
    (name, f) ∈ form.flatFields options ↔ ∃ position l, form.HasLeaf position l ∧
      l.name options.naming = name ∧ l.compiled options = f := by
  unfold flatFields
  simp only [List.mem_map, mem_leaves_iff, Prod.mk.injEq]
  constructor
  · intro h
    obtain ⟨l, ⟨position, hl⟩, hname, hf⟩ := h
    exact ⟨position, l, hl, hname, hf⟩
  · intro h
    obtain ⟨position, l, hl, hname, hf⟩ := h
    exact ⟨l, ⟨position, hl⟩, hname, hf⟩

/-- The names of the flat form are those of the leaves. -/
theorem mem_keys_flatFields : (· ∈ (form.flatFields options).keys) = form.HasName options := by
  funext name
  refine propext ?_
  simp only [Entries.keys, List.mem_map, Prod.exists, mem_flatFields_iff, HasName]
  constructor
  · intro h
    obtain ⟨_, f, ⟨position, l, hl, hname, _⟩, rfl⟩ := h
    exact ⟨position, l, hl, hname⟩
  · intro h
    obtain ⟨position, l, hl, hname⟩ := h
    exact ⟨name, _, ⟨position, l, hl, hname, rfl⟩, rfl⟩

/-- Where no name is used twice, the dependencies in the flat form are those in the tree. -/
theorem mem_dependencies_flatFields (h : (form.flatFields options).Distinct) :
    (fun a b => b ∈ dependencies (form.flatFields options) a) = form.DependsOn options := by
  funext a b
  refine propext ?_
  rw [mem_dependencies_iff, mem_keys_flatFields]
  constructor
  · intro hdep
    obtain ⟨f, c, path, hf, hc, hpath, howner⟩ := hdep
    obtain ⟨position, l, hl, hname, rfl⟩ := mem_flatFields_iff.mp (Entries.mem_of_get? hf)
    obtain ⟨r, hr, rfl⟩ := Condition.mem_paths_iff.mp hpath
    exact ⟨position, l, c, r, hl, hname, hc, hr, howner⟩
  · intro hdep
    obtain ⟨position, l, c, r, hl, hname, hc, hr, howner⟩ := hdep
    have hf := Entries.get?_of_mem h (mem_flatFields_iff.mpr ⟨position, l, hl, hname, rfl⟩)
    exact ⟨_, c, r.field, hf, hc, Condition.mem_paths_iff.mpr ⟨r, hr, rfl⟩, howner⟩

/-- Where no name comes twice, leaves with one name stand at one position. -/
theorem eq_of_name_eq (h : (form.flatFields options).Distinct) {p q : Position} {l m : Leaf}
    (hl : form.HasLeaf p l) (hm : form.HasLeaf q m)
    (hname : l.name options.naming = m.name options.naming) : p = q := by
  have hnodup : (form.numberedLeaves.map fun spot => spot.2.name options.naming).Nodup := by
    rw [Entries.Distinct, keys_flatFields, ← map_snd_numberedLeaves, List.map_map] at h
    exact h
  have heq := List.inj_on_of_nodup_map hnodup (form.mem_numberedLeaves_iff.mpr hl)
    (form.mem_numberedLeaves_iff.mpr hm) hname
  exact (Prod.mk.inj heq).1

variable [PatternEngine]

/-- Every field of a compiled form is what becomes of a leaf. -/
theorem becomes_of_compile {schema : Schema} (h : form.compile options = .ok schema)
    {name : String} {f : FormField} (hf : (name, f) ∈ schema.fields) :
    ∃ position l, form.HasLeaf position l ∧ l.Becomes options name f := by
  rw [(fields_of_compile h).2] at hf
  obtain ⟨position, l, hl, rfl, rfl⟩ := mem_flatFields_iff.mp hf
  exact ⟨position, l, hl, hl.becomes h⟩

/-! ## What is reported -/

/-- A well-formed form has no defect. -/
theorem WellFormed.not_hasDefect (h : form.WellFormed options) (e : DefinitionFault) :
    ¬ form.HasDefect options e := by
  intro hdefect
  cases hdefect with
  | step hplace hstep => exact h.step_ne_zero _ _ hplace hstep
  | key hl hkey => exact h.key_ne_blank _ _ hl hkey
  | name hl hm hlt hname =>
      obtain rfl := h.name_unique _ _ _ _ hl hm hname
      exact List.lt_irrefl _ hlt
  | pattern hl hvalidation hpattern hinvalid =>
      rw [h.pattern_valid _ _ _ _ hl hvalidation hpattern] at hinvalid
      cases hinvalid
  | condition hl hc hx he => exact (h.condition_sound _ _ _ _ hl hc hx).not_hasDefect he
  | cycle hcycle =>
      obtain ⟨name, hname⟩ := hcycle.transGen
      exact h.acyclic name hname

/-- What is reported of a place is a defect of the form. -/
theorem hasDefect_of_placeFault? {e : DefinitionFault} (h : form.placeFault? = some e) :
    form.HasDefect options e := by
  obtain ⟨place, hplace, hfault⟩ := List.exists_of_findSome?_eq_some h
  obtain ⟨position, hposition⟩ := form.mem_places_iff.mp hplace
  cases place with
  | group scope key settings =>
      obtain ⟨hstep, rfl⟩ : settings.step = some 0 ∧
          .invalidStep (dotted (scope.map Prod.fst ++ [key])) 0 = e := by
        simpa [Place.fault?] using hfault
      exact .step hposition hstep
  | leaf l =>
      simp only [Place.fault?] at hfault
      split at hfault
      · rename_i hstep
        rw [← Option.some.inj hfault]
        exact .step hposition hstep
      · split at hfault
        · rename_i hkey
          rw [← Option.some.inj hfault]
          exact .key hposition ((trimBlanks_eq_nil_iff _).mpr hkey)
        · cases hfault

/-- What is reported of a name that comes twice is a defect of the form. -/
theorem hasDefect_of_firstDuplicate? {e : DefinitionFault}
    (h : firstDuplicate? options.naming [] form.leaves = some e) : form.HasDefect options e := by
  obtain ⟨l, m, hsublist, hname, rfl⟩ := sublist_of_firstDuplicate? h
  obtain ⟨p, q, hl, hm, hlt⟩ := form.lt_of_sublist_leaves hsublist
  exact .name hl hm hlt hname

/-- What is reported of a field is a defect of the form. -/
theorem hasDefect_of_fieldFault? {e : DefinitionFault} (h : form.fieldFault? options = some e) :
    form.HasDefect options e := by
  obtain ⟨⟨name, f⟩, hmem, hfault⟩ := List.exists_of_findSome?_eq_some h
  obtain ⟨position, l, hl, rfl, rfl⟩ := mem_flatFields_iff.mp hmem
  rcases FormField.cases_of_fault? hfault with
    ⟨constraint, pattern, hvalidation, hpattern, hinvalid, rfl⟩ | ⟨c, hc, hfault⟩
  · exact .pattern hl hvalidation hpattern hinvalid
  · obtain ⟨x, hx, hdefect⟩ := Condition.exists_part_of_fault? hfault
    rw [mem_keys_flatFields] at hdefect
    exact .condition hl hc hx hdefect

/-- What is reported of a cycle is a defect of the form. -/
theorem hasDefect_of_cycleFault? {e : DefinitionFault}
    (hdistinct : (form.flatFields options).Distinct) (h : form.cycleFault? options = some e) :
    form.HasDefect options e := by
  obtain ⟨path, hpath, rfl⟩ := Option.map_eq_some_iff.mp h
  have hcycle := isCycle_of_cycle? hpath
  rw [mem_dependencies_flatFields hdistinct] at hcycle
  exact .cycle hcycle

/-- What is reported of a form is a defect that it has. -/
theorem hasDefect_of_fault? {e : DefinitionFault} (h : form.fault? options = some e) :
    form.HasDefect options e := by
  unfold fault? at h
  rcases Option.or_eq_some_iff.mp h with hplace | ⟨_, h⟩
  · exact hasDefect_of_placeFault? hplace
  rcases Option.or_eq_some_iff.mp h with hname | ⟨hname, h⟩
  · exact hasDefect_of_firstDuplicate? hname
  rcases Option.or_eq_some_iff.mp h with hfield | ⟨_, hcycle⟩
  · exact hasDefect_of_fieldFault? hfield
  · exact hasDefect_of_cycleFault? (distinct_flatFields_iff.mpr hname) hcycle

/-! ## What is accepted -/

/-- A form of which nothing is reported is well-formed. -/
theorem wellFormed_of_fault?_eq_none (h : form.fault? options = none) :
    form.WellFormed options := by
  obtain ⟨hplace, hname, hfield, hcycle⟩ := fault?_eq_none_iff.mp h
  -- the names come first: without them the dependencies are not those of the tree
  have hdistinct := distinct_flatFields_iff.mpr hname
  have hplaces := fun position place hposition =>
    Place.fault?_eq_none_iff.mp (placeFault?_eq_none_iff.mp hplace position place hposition)
  have hfields : ∀ position l, form.HasLeaf position l →
      (l.compiled options).fault? (form.flatFields options) options.allowUnknownFields
        (l.name options.naming) = none := by
    intro position l hl
    exact List.findSome?_eq_none_iff.mp hfield _
      (mem_flatFields_iff.mpr ⟨position, l, hl, rfl, rfl⟩)
  exact {
    step_ne_zero := fun position place hposition => (hplaces position place hposition).1
    key_ne_blank := by
      intro position l hl hblank
      rw [trimBlanks_eq_nil_iff, (hplaces position _ hl).2 l rfl] at hblank
      cases hblank
    name_unique := fun p q l m hl hm => eq_of_name_eq hdistinct hl hm
    pattern_valid := by
      intro position l constraint pattern hl
      exact (FormField.sound_of_fault?_eq_none (hfields position l hl)).1 constraint pattern
    condition_sound := by
      intro position l c x hl hc hx
      have hsound := (FormField.sound_of_fault?_eq_none (hfields position l hl)).2 c hc
      rw [Condition.fault?_eq_none_iff, mem_keys_flatFields] at hsound
      exact hsound x hx
    acyclic := by
      rw [← mem_dependencies_flatFields hdistinct]
      exact cycle?_eq_none_iff.mp (Option.map_eq_none_iff.mp hcycle) }

/-- A form does not compile exactly if a fault is found. -/
theorem compile_eq_error_iff {e : DefinitionFault} :
    form.compile options = .error e ↔ form.fault? options = some e := by
  unfold compile
  cases form.fault? options with
  | none => simp
  | some e' => simp

/-- **Compilation decides well-formedness.**  Every well-formed form compiles, no other
form does, and what is reported of such a form is a defect that it has, at the place that
the report names. -/
theorem compile_decides_wellFormed (form : Form) (options : CompileOptions) :
    ((∃ schema, form.compile options = .ok schema) ↔ form.WellFormed options) ∧
      ∀ e, form.compile options = .error e → form.HasDefect options e := by
  refine ⟨⟨?_, ?_⟩, ?_⟩
  · intro h
    obtain ⟨schema, hschema⟩ := h
    exact wellFormed_of_fault?_eq_none (fields_of_compile hschema).1
  · intro h
    cases hfault : form.fault? options with
    | none => exact ⟨_, compile_eq_ok hfault⟩
    | some e => exact (h.not_hasDefect e (hasDefect_of_fault? hfault)).elim
  · intro e h
    exact hasDefect_of_fault? (compile_eq_error_iff.mp h)

end Form

/-- Two groups with a city each. -/
def twoCities : Form :=
  [("home", .group {} [("city", .field { kind := .text })]),
    ("work", .group {} [("city", .field { kind := .text })])]

/-- The two cities have different names with the keys of their groups, and one without. -/
theorem naming_decides_two_cities :
    (∃ schema, twoCities.compile { naming := .dotted } = .ok schema) ∧
      twoCities.WellFormed { naming := .dotted } ∧ ¬ twoCities.WellFormed {} ∧
      twoCities.compile {} = .error (.duplicateFieldName "city" "home.city" "work.city") ∧
      twoCities.HasDefect {} (.duplicateFieldName "city" "home.city" "work.city") := by
  have hdotted := Form.compile_eq_ok
    (show twoCities.fault? { naming := .dotted } = none by decide +kernel)
  have hflat := Form.compile_eq_error_iff.mpr (show twoCities.fault? {} =
    some (.duplicateFieldName "city" "home.city" "work.city") by decide +kernel)
  obtain ⟨hiff, _⟩ := Form.compile_decides_wellFormed twoCities { naming := .dotted }
  obtain ⟨hiff', hreport⟩ := Form.compile_decides_wellFormed twoCities {}
  refine ⟨⟨_, hdotted⟩, hiff.mp ⟨_, hdotted⟩, ?_, hflat, hreport _ hflat⟩
  intro hwellFormed
  obtain ⟨schema, hschema⟩ := hiff'.mpr hwellFormed
  rw [hflat] at hschema
  cases hschema

end Formwork
