import Formwork.Compilation.Basic
import Formwork.Pattern.Meaning
import Formwork.Proofs.Condition.Parts

/-!
# What compilation leaves to evaluation

Compilation examines every condition of a form, with all its parts, and evaluation comes
to some of them.  What is found at compilation cannot be met at evaluation; what remains
is what the two see differently.  Both try the pattern of a rule, but compilation only
where it is given as a text, and evaluation in the text view of whatever is given.

* `Rule.outcome_eq_error_iff` and `Rule.sound_of_fault?_eq_none` — one rule, as evaluation
  and as compilation see it;
* `fault?_eq_none_of_reaches` — an evaluation stays among parts that were found sound;
* `FormField.cases_of_fault?` — what is reported of a field is about its pattern or its
  condition;
* `compiled_explain_eq_error_iff` — the faults that a compiled form can still meet.
-/

namespace Formwork

/-! ## Rules -/

namespace Rule

variable [PatternEngine] {r : Rule} {actual : Option Value} {e : EvaluationFault}

/-- What a rule faults with does not depend on the value that it sees. -/
theorem outcome_eq_error_iff : r.outcome actual = .error e ↔
    (∃ tag, r.op = .unknown tag ∧ e = .unknownOperator tag) ∨
    ((∀ tag, r.op ≠ .unknown tag) ∧ r.op.takesOperand = true ∧ r.value = none ∧
      e = .missingOperand r.op r.field) ∨
    (r.op = .matching ∧ ∃ v, r.value = some v ∧ Pattern.isValid v.display = false ∧
      e = .invalidPattern v.display) := by
  obtain ⟨field, op, value⟩ := r
  cases op with
  | matching =>
      cases value with
      | none => simp [outcome, Operator.takesOperand, @eq_comm _ e]
      | some v =>
          cases hmatch : matchPattern? v.display (actual.getD .null).display with
          | none =>
              have hvalid := matchPattern?_eq_none_iff.mp hmatch
              simp [outcome, hmatch, hvalid, @eq_comm _ e]
          | some b =>
              have hvalid : ¬ Pattern.isValid v.display = false := by
                intro h
                simp [matchPattern?_eq_none_iff.mpr h] at hmatch
              simp [outcome, hmatch, hvalid]
  | unknown tag => simp [outcome, @eq_comm _ e]
  | present => simp [outcome, Operator.takesOperand]
  | absent => simp [outcome, Operator.takesOperand]
  | _ => cases value <;> simp [outcome, Operator.takesOperand, @eq_comm _ e]

variable {fields : Entries FormField} {allowUnknown : Bool} {name : String}

/-- A rule that compilation finds nothing wrong with has an operator that is known, an
operand if it needs one, and a pattern that is valid if it is given as a text. -/
theorem sound_of_fault?_eq_none (h : r.fault? fields allowUnknown name = none) :
    (∀ tag, r.op ≠ .unknown tag) ∧ (r.op.takesOperand = true → r.value ≠ none) ∧
      ∀ s, r.op = .matching → r.value = some (.text s) → Pattern.isValid s = true := by
  obtain ⟨field, op, value⟩ := r
  cases op with
  | matching =>
      cases value with
      | none => simp [fault?, Operator.takesOperand] at h
      | some v =>
          refine ⟨by simp, by simp, ?_⟩
          intro s _ hv
          obtain rfl := Option.some.inj hv
          simp only [fault?, Operator.takesOperand] at h
          by_cases hvalid : Pattern.isValid s = true
          · exact hvalid
          · simp [hvalid] at h
  | unknown tag => simp [fault?] at h
  | present => simp [Operator.takesOperand]
  | absent => simp [Operator.takesOperand]
  | _ =>
      cases value with
      | none => simp [fault?, Operator.takesOperand] at h
      | some v => simp

/-- The one fault that compilation leaves to a rule: a pattern that is not given as a
text and is not valid in the text view. -/
theorem outcome_eq_error_iff_of_sound (h : r.fault? fields allowUnknown name = none) :
    r.outcome actual = .error e ↔ r.op = .matching ∧ ∃ v, r.value = some v ∧
      (∀ s, v ≠ .text s) ∧ Pattern.isValid v.display = false ∧ e = .invalidPattern v.display := by
  obtain ⟨hknown, hoperand, htext⟩ := sound_of_fault?_eq_none h
  rw [outcome_eq_error_iff]
  constructor
  · intro hfault
    rcases hfault with ⟨tag, htag, _⟩ | ⟨_, htakes, hnone, _⟩ | ⟨hop, v, hv, hinvalid, he⟩
    · exact absurd htag (hknown tag)
    · exact absurd hnone (hoperand htakes)
    · refine ⟨hop, v, hv, ?_, hinvalid, he⟩
      intro s hs
      subst hs
      have hvalid := htext s hop hv
      have hdisplay : (Value.text s).display = s := by
        simp [Value.display, Value.displayChars]
      rw [hdisplay, hvalid] at hinvalid
      cases hinvalid
  · intro hfault
    obtain ⟨hop, v, hv, _, hinvalid, he⟩ := hfault
    exact Or.inr (Or.inr ⟨hop, v, hv, hinvalid, he⟩)

end Rule

/-! ## Conditions -/

namespace Condition

variable [PatternEngine] {fields : Entries FormField} {allowUnknown : Bool} {name : String}
  {values : Snapshot} {c x : Condition}

/-- A list is without fault exactly if all its conditions are. -/
theorem faultOf?_eq_none_iff {items : List Condition} :
    faultOf? fields allowUnknown name items = none ↔
      ∀ c ∈ items, c.fault? fields allowUnknown name = none := by
  induction items with
  | nil => simp [faultOf?]
  | cons c rest ih => simp [faultOf?, ih]

/-- Nothing is reported of a part of a condition of which nothing is reported. -/
theorem fault?_eq_none_of_hasPart (h : c.fault? fields allowUnknown name = none)
    (hx : HasPart c x) : x.fault? fields allowUnknown name = none := by
  induction hx with
  | here c => exact h
  | all hc _ ih => exact ih (faultOf?_eq_none_iff.mp h _ hc)
  | any hc _ ih => exact ih (faultOf?_eq_none_iff.mp h _ hc)
  | conflictingAll => cases h
  | conflictingAny => cases h

/-- An evaluation stays among the parts of a condition that were found sound. -/
theorem fault?_eq_none_of_reaches (h : c.fault? fields allowUnknown name = none)
    (hx : Reaches values c x) : x.fault? fields allowUnknown name = none :=
  fault?_eq_none_of_hasPart h hx.hasPart

end Condition

/-! ## Fields -/

namespace FormField

variable [PatternEngine] {fields : Entries FormField} {allowUnknown : Bool} {name : String}
  {f : FormField}

/-- The fault of a field's condition is found in it. -/
theorem conditionFault?_eq_some_iff {e : DefinitionFault} :
    fault?.conditionFault? fields allowUnknown name f = some e ↔
      ∃ c, f.showWhen = some c ∧ c.fault? fields allowUnknown name = some e := by
  simp only [fault?.conditionFault?, Option.bind_eq_some_iff]

/-- What is reported of a field is that its pattern is not valid, or what is reported of
its condition. -/
theorem cases_of_fault? {e : DefinitionFault} (h : f.fault? fields allowUnknown name = some e) :
    (∃ constraint pattern, f.validation = some constraint ∧
      constraint.pattern? = some pattern ∧ Pattern.isValid pattern = false ∧
      e = .invalidFieldPattern name pattern) ∨
    ∃ c, f.showWhen = some c ∧ c.fault? fields allowUnknown name = some e := by
  unfold fault? at h
  split at h
  · rename_i pattern hpattern
    split at h
    · exact Or.inr (conditionFault?_eq_some_iff.mp h)
    · rename_i hinvalid
      obtain ⟨constraint, hvalidation, hpattern⟩ := Option.bind_eq_some_iff.mp hpattern
      exact Or.inl ⟨constraint, pattern, hvalidation, hpattern, by simpa using hinvalid,
        (Option.some.inj h).symm⟩
  · exact Or.inr (conditionFault?_eq_some_iff.mp h)

/-- Nothing is reported of a field whose pattern is valid and of whose condition nothing is
reported. -/
theorem sound_of_fault?_eq_none (h : f.fault? fields allowUnknown name = none) :
    (∀ constraint pattern, f.validation = some constraint → constraint.pattern? = some pattern →
      Pattern.isValid pattern = true) ∧
    ∀ c, f.showWhen = some c → c.fault? fields allowUnknown name = none := by
  have hrest : fault?.conditionFault? fields allowUnknown name f = none ∧
      ∀ pattern, f.validation.bind Constraint.pattern? = some pattern →
        Pattern.isValid pattern = true := by
    unfold fault? at h
    split at h
    · rename_i pattern hpattern
      split at h
      · rename_i hvalid
        refine ⟨h, ?_⟩
        intro pattern' hpattern'
        obtain rfl := Option.some.inj (hpattern.symm.trans hpattern')
        exact hvalid
      · cases h
    · rename_i hpattern
      refine ⟨h, ?_⟩
      intro pattern hpattern'
      rw [hpattern] at hpattern'
      cases hpattern'
  constructor
  · intro constraint pattern hvalidation hpattern
    exact hrest.2 pattern (Option.bind_eq_some_iff.mpr ⟨constraint, hvalidation, hpattern⟩)
  · intro c hc
    simpa [fault?.conditionFault?, hc] using hrest.1

end FormField

/-! ## Forms -/

namespace Form

variable [PatternEngine] {form : Form} {options : CompileOptions} {schema : Schema}

/-- A form that compiles is without fault, and its fields are those of the flat form. -/
theorem fields_of_compile (h : form.compile options = .ok schema) :
    form.fault? options = none ∧ schema.fields = form.flatFields options := by
  unfold compile at h
  cases hfault : form.fault? options with
  | some e => simp [hfault] at h
  | none =>
      simp only [hfault] at h
      exact ⟨rfl, by rw [← Except.ok.inj h]⟩

/-- A form without fault compiles. -/
theorem compile_eq_ok (h : form.fault? options = none) : form.compile options = .ok
    { fields := form.flatFields options
      rules := (form.flatFields options).map fun (name, f) => (name, f.rule) } := by
  simp [compile, h]

/-- Every condition of a compiled form was found sound. -/
theorem condition_sound_of_compile (h : form.compile options = .ok schema) {name : String}
    {f : FormField} (hf : (name, f) ∈ schema.fields) {c : Condition}
    (hc : f.showWhen = some c) :
    c.fault? schema.fields options.allowUnknownFields name = none := by
  obtain ⟨hfault, hfields⟩ := fields_of_compile h
  simp only [fault?, Option.or_eq_none_iff] at hfault
  rw [hfields] at hf ⊢
  have hfield : f.fault? (form.flatFields options) options.allowUnknownFields name = none :=
    List.findSome?_eq_none_iff.mp hfault.2.2.1 _ hf
  exact (FormField.sound_of_fault?_eq_none hfield).2 c hc

/-- **What compilation leaves to evaluation.**  The condition of a field of a compiled form
faults exactly where its evaluation comes to a rule whose pattern is not given as a text
and is not valid in the text view.  No operator is unknown, no operand is missing, and no
group sets both of its lists; a form whose patterns are texts never faults. -/
theorem compiled_explain_eq_error_iff (h : form.compile options = .ok schema) {name : String}
    {f : FormField} (hf : (name, f) ∈ schema.fields) {c : Condition}
    (hc : f.showWhen = some c) (values : Snapshot) (e : EvaluationFault) :
    c.explain values = .error e ↔ ∃ r v, c.Reaches values (.rule r) ∧ r.op = .matching ∧
      r.value = some v ∧ (∀ s, v ≠ .text s) ∧ Pattern.isValid v.display = false ∧
      e = .invalidPattern v.display := by
  have hsound := condition_sound_of_compile h hf hc
  rw [Condition.explain_eq_error_iff]
  constructor
  · intro hfault
    obtain ⟨x, hx, hfault⟩ := hfault
    have hxsound := Condition.fault?_eq_none_of_reaches hsound hx
    cases x with
    | rule r =>
        obtain ⟨hop, v, hv, hrest⟩ := (Rule.outcome_eq_error_iff_of_sound hxsound).mp hfault
        exact ⟨r, v, hx, hop, hv, hrest⟩
    | conflicting xs ys => cases hxsound
    | all items => exact hfault.elim
    | any items => exact hfault.elim
    | unset => exact hfault.elim
  · intro hfault
    obtain ⟨r, v, hx, hop, hv, hrest⟩ := hfault
    have hxsound := Condition.fault?_eq_none_of_reaches hsound hx
    exact ⟨.rule r, hx, (Rule.outcome_eq_error_iff_of_sound hxsound).mpr ⟨hop, v, hv, hrest⟩⟩

end Form

/-- A condition with a pattern. -/
def patternCondition (pattern : Value) : Condition := .rule ⟨"a", .matching, some pattern⟩

/-- A form of two fields, the second of which is shown if the first one matches a pattern. -/
def patternForm (pattern : Value) : Form :=
  [("a", .field { kind := .text }),
    ("b", .field { kind := .text, showWhen := some (patternCondition pattern) })]

/-- The second field after compilation. -/
def patternField (pattern : Value) : FormField :=
  { kind := .text, name := some "b", showWhen := some (patternCondition pattern) }

/-- The field with the pattern is one of the flat form. -/
theorem mem_flatFields_patternForm (pattern : Value) :
    ("b", patternField pattern) ∈ (patternForm pattern).flatFields {} := by
  simp [patternForm, patternField, Form.flatFields, Form.leaves, Form.places, Form.placesOfNodes,
    Form.placesOfNode, Place.leaf?, Leaf.compiled, Leaf.name, Leaf.combined, Leaf.conditions,
    Leaf.inheritedStep]

/-- With a pattern that is given as a text nothing can go wrong any more. -/
theorem text_pattern_never_faults :
    (∃ schema, (patternForm (.text "x")).compile {} = .ok schema) ∧
      ∀ values e, (patternCondition (.text "x")).explain values ≠ .error e := by
  have hcompile := Form.compile_eq_ok (show (patternForm (.text "x")).fault? {} = none by
    decide +kernel)
  refine ⟨⟨_, hcompile⟩, ?_⟩
  intro values e h
  obtain ⟨r, v, hr, _, hv, htext, _⟩ := (Form.compiled_explain_eq_error_iff hcompile
    (mem_flatFields_patternForm _) rfl values e).mp h
  cases hr
  exact htext "x" (Option.some.inj hv).symm

/-- A pattern in a list compiles, and faults as soon as it is evaluated. -/
theorem list_pattern_faults :
    (∃ schema, (patternForm (.list [.text "("])).compile {} = .ok schema ∧
      ("b", patternField (.list [.text "("])) ∈ schema.fields) ∧
    (patternCondition (.list [.text "("])).explain [("a", .text "x")] =
      .error (.invalidPattern "(") ∧
    isVisible (patternField (.list [.text "("])).showWhen [("a", .text "x")] = true := by
  have hcompile := Form.compile_eq_ok
    (show (patternForm (.list [.text "("])).fault? {} = none by decide +kernel)
  have hexplain : (patternCondition (.list [.text "("])).explain [("a", .text "x")] =
      .error (.invalidPattern "(") := by
    rw [Condition.explain_eq_error_iff]
    refine ⟨_, .here _, Rule.outcome_eq_error_iff.mpr (Or.inr (Or.inr ⟨rfl, _, rfl, ?_, ?_⟩))⟩
    · decide +kernel
    · decide +kernel
  refine ⟨⟨_, hcompile, mem_flatFields_patternForm _⟩, hexplain, ?_⟩
  simp [isVisible, patternField, Condition.evaluate, hexplain]

end Formwork
