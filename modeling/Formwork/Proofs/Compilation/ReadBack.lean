import Formwork.Pattern.Meaning
import Formwork.Proofs.Compilation.WellFormed
import Formwork.Proofs.Schema.Written

/-!
# Compiled forms that are written and read back

A compiled form that is kept as a text comes back as it was, if its text nests no deeper
than a reader has room for and nothing in it is null that is left out when it is missing:
the default of a field, or the operand of a rule.  Such a null is read as missing, so a
rule that compares with it has lost its operand.

* `Form.Writable` — the forms that a text can carry;
* `Form.writable_of_compile` — a text can carry what they are compiled to;
* `Form.compiled_read_back_iff` — when a compiled form comes back, and what comes back.
-/

namespace Formwork

/-! ## What a form passes on to its fields -/

/-- A text can carry what a group says besides its nodes. -/
structure GroupSettings.Writable (s : GroupSettings) : Prop where
  step : ∀ n ∈ s.step, n < Nat.pow 2 32
  showWhen : ∀ c ∈ s.showWhen, c.Writable

/-- A text can carry what stands at a place. -/
def Place.Writable : Place → Prop
  | .leaf l => l.field.Writable
  | .group _ _ settings => settings.Writable

/-- A text can carry the form: every field and every group of it. -/
def Form.Writable (form : Form) : Prop :=
  ∀ position place, form.HasPlace position place → place.Writable

namespace Leaf

variable {l : Leaf}

/-- Conditions that are combined can be written if each of them can. -/
theorem writable_combined {conditions : List Condition} (h : ∀ c ∈ conditions, c.Writable) :
    ∀ c ∈ combined conditions, c.Writable := by
  match conditions with
  | [] => nofun
  | [c] =>
      rintro _ ⟨⟩
      exact h c List.mem_cons_self
  | c :: d :: rest =>
      rintro _ ⟨⟩
      exact Condition.allRules_all_iff.mpr h

/-- The conditions of a leaf can be written if those of its field and of the groups around it can.
-/
theorem writable_conditions (hfield : l.field.Writable) (hscope : ∀ g ∈ l.scope, g.2.Writable) :
    ∀ c ∈ l.conditions, c.Writable := by
  intro c hc
  rcases List.mem_append.mp hc with hc | hc
  · obtain ⟨g, hg, hshow⟩ := List.mem_filterMap.mp hc
    exact (hscope g hg).showWhen c hshow
  · exact hfield.showWhen c (Option.mem_toList.mp hc)

/-- A step that is passed on is a number of 32 bits if those of the groups are. -/
theorem inheritedStep_lt (hscope : ∀ g ∈ l.scope, g.2.Writable) :
    ∀ n ∈ l.inheritedStep, n < Nat.pow 2 32 := by
  intro n hn
  obtain ⟨g, hg, hstep⟩ := List.exists_of_findSome?_eq_some hn
  exact (hscope g (List.mem_reverse.mp hg)).step n hstep

/-- What a field inherits can be carried with it. -/
theorem writable_compiled (hfield : l.field.Writable) (hscope : ∀ g ∈ l.scope, g.2.Writable)
    (options : CompileOptions) : (l.compiled options).Writable := by
  have hstep : ∀ n ∈ (l.compiled options).step, n < Nat.pow 2 32 := by
    intro n hn
    unfold compiled at hn
    split at hn
    · rcases Option.or_eq_some_iff.mp hn with hown | ⟨_, hinherited⟩
      · exact hfield.step n hown
      · exact inheritedStep_lt hscope n hinherited
    · exact hfield.step n hn
  exact { hfield with
    step := hstep
    showWhen := writable_combined (writable_conditions hfield hscope) }

end Leaf

namespace Form

variable [PatternEngine] {form : Form} {options : CompileOptions} {compiled : Schema}

/-- What a form is compiled to can be carried by a text if the form can. -/
theorem writable_of_compile (h : form.compile options = .ok compiled) (hform : form.Writable)
    {info : FormInfo} (hinfo : info.Writable) : Schema.Writable { compiled with info } := by
  have hfields : ∀ p ∈ form.flatFields options, p.2.Writable := by
    intro p hp
    obtain ⟨position, l, hl, _, hcompiled⟩ := mem_flatFields_iff.mp hp
    rw [← hcompiled]
    refine Leaf.writable_compiled (hform position _ hl) ?_ options
    intro g hg
    obtain ⟨q, outer, hgroup⟩ := hl.group_of_mem_scope hg
    exact hform q _ hgroup
  have hnames := distinct_of_compile h
  have hrules := rules_of_compile h
  rw [← (fields_of_compile h).2] at hfields hrules
  refine ⟨hnames, hfields, ?_, ?_, hinfo⟩
  · simpa [hrules, Entries.Distinct, Entries.keys, Function.comp_def] using hnames
  · rw [hrules, List.forall_mem_map]
    intro p hp
    cases hvalidation : p.2.validation with
    | none => simp [FormField.rule, hvalidation, Constraint.Writable]
    | some c =>
        simpa [FormField.rule, hvalidation] using (hfields p hp).validation c hvalidation

/-- **When a compiled form comes back.**  What is read of the text of a compiled form, with
any information attached, is the form without the defaults and the operands that are null,
and nothing if the text nests beyond the limit.  So the form comes back as it was exactly if
its text does not nest too deep and none of these is null.  In every snapshot in which no
condition comes to a rule whose operand is null, what is read shows the same fields as the
form, for the same reasons, and reports the same on every step. -/
theorem compiled_read_back_iff (h : form.compile options = .ok compiled) (hform : form.Writable)
    (info : FormInfo) (hinfo : info.Writable) :
    let s : Schema := { compiled with info }
    (Schema.ofText? s.toValue.compact = some s ↔
      s.toValue.depth ≤ JsonText.nestingLimit ∧ s.NullFree) ∧
    (Schema.ofText? s.toValue.compact =
      if s.toValue.depth ≤ JsonText.nestingLimit then some s.forgetNulls else none) ∧
    ∀ back, Schema.ofText? s.toValue.compact = some back →
      ∀ values, s.AvoidsNulls values →
        back.visibility values = s.visibility values ∧
        ∀ step, back.validateStep step values = s.validateStep step values := by
  intro s
  have hread := Schema.ofText?_compact (writable_of_compile h hform hinfo)
  refine ⟨?_, hread, ?_⟩
  · rw [hread, ← Schema.forgetNulls_eq_self_iff]
    by_cases hdepth : s.toValue.depth ≤ JsonText.nestingLimit
    · rw [if_pos hdepth, Option.some.injEq]
      exact (and_iff_right hdepth).symm
    · rw [if_neg hdepth]
      exact iff_of_false nofun fun hboth => hdepth hboth.1
  · intro back hback values hnulls
    rw [hread] at hback
    split at hback
    · obtain rfl := Option.some.inj hback
      exact ⟨Schema.visibility_forgetNulls hnulls,
        fun step => Schema.reportOnStep_forgetNulls hnulls step {}⟩
    · cases hback

end Form

/-- The number one and a half. -/
def oneAndAHalf : Binary64 := .finite false (3 * Nat.pow 2 1073)

theorem oneAndAHalf_readsBack : oneAndAHalf.ReadsBack :=
  ⟨⟨false, ['1'], some ['5'], none⟩, by decide +kernel, by decide +kernel⟩

/-- A choice with a default. -/
def firmKind : FormField where
  kind := .select
  defaultValue := some (.text "firm")
  options := [⟨"A firm", .text "firm", false⟩]

/-- The second step, for those who made this choice. -/
def firmOnly : GroupSettings where
  step := some 2
  showWhen := some (.rule ⟨"kind", .equal, some (.text "firm")⟩)

/-- A number with a bound. -/
def firmShare : FormField where
  kind := .number
  validation := some (.number (some oneAndAHalf) none false none)

/-- A choice, and a number that is asked for on the second step where the choice was made. -/
def shareForm : Form :=
  [("kind", .field firmKind), ("company", .group firmOnly [("share", .field firmShare)])]

/-- A text can carry the form of the example. -/
theorem shareForm_writable : shareForm.Writable := by
  intro position place hplace
  have hmem := shareForm.mem_places_iff.mpr ⟨position, hplace⟩
  have hplaces : shareForm.places = [.leaf ⟨[], "kind", firmKind⟩,
      .group [] "company" firmOnly, .leaf ⟨[("company", firmOnly)], "share", firmShare⟩] := rfl
  simp only [hplaces, List.mem_cons, List.not_mem_nil, or_false] at hmem
  rcases hmem with rfl | rfl | rfl
  · exact { FormField.writable_of_kind rfl with
      defaultValue := Value.slotWritable_some (.text "firm")
      options := by
        intro c hc
        obtain rfl := List.mem_singleton.mp hc
        exact .text "firm" }
  · exact {
      step := by
        rintro _ ⟨⟩
        decide
      showWhen := by
        rintro _ ⟨⟩
        exact Condition.allRules_rule_iff.mpr ⟨rfl, Value.slotWritable_some (.text "firm")⟩ }
  · exact { FormField.writable_of_kind rfl with
      validation := by
        rintro _ ⟨⟩
        refine ⟨?_, nofun⟩
        rintro _ ⟨⟩
        exact oneAndAHalf_readsBack }

/-- The choice and the number come back as they were. -/
theorem share_read_back : ∃ compiled, shareForm.compile { naming := .dotted } = .ok compiled ∧
    let s : Schema := { compiled with info := { steps := [⟨2, "The firm", none⟩] } }
    Schema.ofText? s.toValue.compact = some s := by
  have hcompile := Form.compile_eq_ok
    (show shareForm.fault? { naming := .dotted } = none by decide +kernel)
  refine ⟨_, hcompile, ?_⟩
  intro s
  refine (Form.compiled_read_back_iff hcompile shareForm_writable _ ?_).1.mpr ⟨?_, ?_⟩
  · simp [FormInfo.Writable]
  · decide +kernel
  · exact Schema.forgetNulls_eq_self_iff.mp (by decide +kernel)

/-- A field that is shown only where the other one has no value. -/
def nullOperandForm : Form :=
  [("a", .field { kind := .text }),
    ("b", .field { kind := .text, showWhen := some (.rule ⟨"a", .equal, some .null⟩) })]

/-- A text can carry the form with a null for an operand. -/
theorem nullOperandForm_writable : nullOperandForm.Writable := by
  intro position place hplace
  have hmem := nullOperandForm.mem_places_iff.mpr ⟨position, hplace⟩
  have hplaces : nullOperandForm.places = [.leaf ⟨[], "a", { kind := .text }⟩,
      .leaf ⟨[], "b", { kind := .text, showWhen := some (.rule ⟨"a", .equal, some .null⟩) }⟩] :=
    rfl
  simp only [hplaces, List.mem_cons, List.not_mem_nil, or_false] at hmem
  rcases hmem with rfl | rfl
  · exact FormField.writable_of_kind rfl
  · exact { FormField.writable_of_kind rfl with
      showWhen := by
        rintro _ ⟨⟩
        exact Condition.allRules_rule_iff.mpr ⟨rfl, Value.slotWritable_some .null⟩ }

/-- A rule that compares with null has lost its operand when it comes back, and the field
that it had hidden is shown. -/
theorem null_operand_lost : ∃ compiled back, nullOperandForm.compile {} = .ok compiled ∧
    nullOperandForm.Writable ∧ Schema.ofText? compiled.toValue.compact = some back ∧
    back ≠ compiled ∧
    (compiled.visibility [("a", .text "x")]).get? "b" =
      some ⟨false, some "a (was \"x\") == null"⟩ ∧
    (back.visibility [("a", .text "x")]).get? "b" = some ⟨true, none⟩ := by
  have hcompile := Form.compile_eq_ok (show nullOperandForm.fault? {} = none by decide +kernel)
  have hread := Schema.ofText?_compact
    (Form.writable_of_compile hcompile nullOperandForm_writable
      (show FormInfo.Writable {} from nofun))
  rw [if_pos (by decide +kernel)] at hread
  exact ⟨_, _, hcompile, nullOperandForm_writable, hread, by decide +kernel, by decide +kernel,
    by decide +kernel⟩

end Formwork
