import Formwork.Proofs.Compilation.Faults
import Formwork.Proofs.Compilation.Owner

/-!
# What can be wrong with a condition

Each part of a condition is sound by itself or has a defect, whatever is around it: a group
sets exactly one of its lists, and a rule has an operator that is known, an operand if it
needs one, a pattern that is valid if it is given as a text, and a path that belongs to a
field.  Compilation goes through all parts, and what it reports is the defect of one.

* `Condition.IsSound` and `Condition.HasDefect` — one part, for itself; no part is sound
  and has a defect;
* `fault?_eq_none_iff` — nothing is reported exactly if all parts are sound;
* `exists_part_of_fault?` — what is reported is the defect of some part.
-/

namespace Formwork

/-- A path belongs to one of these names, if it has to. -/
def HasOwner (isName : String → Prop) (allowUnknown : Bool) (path : String) : Prop :=
  allowUnknown = false → ∃ owner, IsOwner isName path owner

namespace Condition

variable [PatternEngine]

/-- What a part of a condition is like if nothing is wrong with it. -/
def IsSound (hasOwner : String → Prop) : Condition → Prop
  | .rule r => (∀ tag, r.op ≠ .unknown tag) ∧ (r.op.takesOperand = true → r.value ≠ none) ∧
    (∀ s, r.op = .matching → r.value = some (.text s) → Pattern.isValid s = true) ∧
    hasOwner r.field
  | .all _ | .any _ => True
  | .unset | .conflicting _ _ => False

/-- What can be wrong with a part of the condition of the field `name`. -/
inductive HasDefect (hasOwner : String → Prop) (name : String) :
    Condition → DefinitionFault → Prop
  | unset : HasDefect hasOwner name .unset (.malformedCondition name .unsetGroup)
  | conflicting (xs ys : List Condition) :
      HasDefect hasOwner name (.conflicting xs ys) (.malformedCondition name .conflictingGroup)
  | unknownOperator {r : Rule} {tag : String} (hop : r.op = .unknown tag) :
      HasDefect hasOwner name (.rule r) (.malformedCondition name (.unknownOperator tag))
  | missingOperand {r : Rule} (htakes : r.op.takesOperand = true) (hvalue : r.value = none) :
      HasDefect hasOwner name (.rule r) (.malformedCondition name (.missingOperand r.op r.field))
  | invalidPattern {r : Rule} {s : String} (hop : r.op = .matching)
      (hvalue : r.value = some (.text s)) (hinvalid : Pattern.isValid s = false) :
      HasDefect hasOwner name (.rule r) (.invalidConditionPattern name s)
  | noOwner {r : Rule} (howner : ¬ hasOwner r.field) :
      HasDefect hasOwner name (.rule r) (.unknownConditionField r.field name)

/-- A sound condition has no defect. -/
theorem IsSound.not_hasDefect {hasOwner : String → Prop} {name : String} {c : Condition}
    {e : DefinitionFault} (h : c.IsSound hasOwner) : ¬ c.HasDefect hasOwner name e := by
  intro hdefect
  cases hdefect with
  | unset => exact h
  | conflicting xs ys => exact h
  | unknownOperator hop => exact h.1 _ hop
  | missingOperand htakes hvalue => exact h.2.1 htakes hvalue
  | invalidPattern hop hvalue hinvalid =>
      rw [h.2.2.1 _ hop hvalue] at hinvalid
      cases hinvalid
  | noOwner howner => exact howner h.2.2.2

end Condition

variable {fields : Entries FormField} {allowUnknown : Bool} {name : String}

/-! ## One rule -/

namespace Rule

variable {r : Rule} {e : DefinitionFault}

/-- No fault is found with the path of a rule exactly if a field owns it or none has to. -/
theorem ownerFault?_eq_none_iff : fault?.ownerFault? fields allowUnknown name r = none ↔
    HasOwner (· ∈ fields.keys) allowUnknown r.field := by
  unfold fault?.ownerFault? HasOwner
  simp only [← owner?_eq_some_iff]
  cases howner : owner? fields r.field with
  | none => simp
  | some owner => simp

/-- The fault that is found tells the path and the field whose condition has it. -/
theorem eq_of_ownerFault? (h : fault?.ownerFault? fields allowUnknown name r = some e) :
    e = .unknownConditionField r.field name := by
  unfold fault?.ownerFault? at h
  split at h
  · exact (Option.some.inj h).symm
  · cases h

variable [PatternEngine]

/-- What is reported of a rule is what is wrong with it. -/
theorem hasDefect_of_fault? (h : r.fault? fields allowUnknown name = some e) :
    (Condition.rule r).HasDefect (HasOwner (· ∈ fields.keys) allowUnknown) name e := by
  -- the owner of the path is asked for last, whether or not there is a pattern to try
  have hrest : ∀ e, fault?.ownerFault? fields allowUnknown name r = some e →
      (Condition.rule r).HasDefect (HasOwner (· ∈ fields.keys) allowUnknown) name e := by
    intro e he
    rw [eq_of_ownerFault? he]
    refine .noOwner ?_
    rw [← ownerFault?_eq_none_iff, he]
    simp
  unfold fault? at h
  split at h
  · rename_i tag hop
    rw [← Option.some.inj h]
    exact .unknownOperator hop
  · split at h
    · rename_i hmissing
      obtain ⟨htakes, hvalue⟩ : r.op.takesOperand = true ∧ r.value = none := by
        simpa using hmissing
      rw [← Option.some.inj h]
      exact .missingOperand htakes hvalue
    · split at h
      · rename_i pattern hop hvalue
        split at h
        · exact hrest e h
        · rename_i hinvalid
          rw [← Option.some.inj h]
          exact .invalidPattern hop hvalue (by simpa using hinvalid)
      · exact hrest e h

/-- A rule of which nothing is reported has a path that belongs to a field. -/
theorem hasOwner_of_fault?_eq_none (h : r.fault? fields allowUnknown name = none) :
    HasOwner (· ∈ fields.keys) allowUnknown r.field := by
  rw [← ownerFault?_eq_none_iff]
  unfold fault? at h
  split at h
  · cases h
  · split at h
    · cases h
    · split at h
      · split at h
        · exact h
        · cases h
      · exact h

end Rule

/-! ## All parts of a condition -/

namespace Condition

variable [PatternEngine] {c x : Condition} {e : DefinitionFault}

/-- The fault of a list is that of one of its conditions. -/
theorem exists_of_faultOf? {items : List Condition}
    (h : faultOf? fields allowUnknown name items = some e) :
    ∃ c ∈ items, c.fault? fields allowUnknown name = some e := by
  induction items with
  | nil => cases h
  | cons c rest ih =>
      rcases Option.or_eq_some_iff.mp h with hc | ⟨_, hrest⟩
      · exact ⟨c, List.mem_cons_self, hc⟩
      · obtain ⟨d, hd, hfault⟩ := ih hrest
        exact ⟨d, List.mem_cons_of_mem _ hd, hfault⟩

/-- What is reported of a condition is what is wrong with a part of it. -/
theorem exists_part_of_fault? (h : c.fault? fields allowUnknown name = some e) :
    ∃ x, c.HasPart x ∧ x.HasDefect (HasOwner (· ∈ fields.keys) allowUnknown) name e := by
  induction c using inductionOn with
  | rule r => exact ⟨_, .here _, Rule.hasDefect_of_fault? h⟩
  | all items ih =>
      obtain ⟨c, hc, hfault⟩ := exists_of_faultOf? h
      obtain ⟨x, hx, hdefect⟩ := ih c hc hfault
      exact ⟨x, .all hc hx, hdefect⟩
  | any items ih =>
      obtain ⟨c, hc, hfault⟩ := exists_of_faultOf? h
      obtain ⟨x, hx, hdefect⟩ := ih c hc hfault
      exact ⟨x, .any hc hx, hdefect⟩
  | unset =>
      rw [← Option.some.inj h]
      exact ⟨_, .here _, .unset⟩
  | conflicting xs ys =>
      rw [← Option.some.inj h]
      exact ⟨_, .here _, .conflicting xs ys⟩

/-- A part of which nothing is reported is sound by itself. -/
theorem isSound_of_fault?_eq_none (h : x.fault? fields allowUnknown name = none) :
    x.IsSound (HasOwner (· ∈ fields.keys) allowUnknown) := by
  cases x with
  | rule r =>
      obtain ⟨hop, hvalue, hpattern⟩ := Rule.sound_of_fault?_eq_none h
      exact ⟨hop, hvalue, hpattern, Rule.hasOwner_of_fault?_eq_none h⟩
  | all items => trivial
  | any items => trivial
  | unset => cases h
  | conflicting xs ys => cases h

/-- Nothing is reported of a condition exactly if all its parts are sound. -/
theorem fault?_eq_none_iff : c.fault? fields allowUnknown name = none ↔
    ∀ x, c.HasPart x → x.IsSound (HasOwner (· ∈ fields.keys) allowUnknown) := by
  constructor
  · intro h x hx
    exact isSound_of_fault?_eq_none (fault?_eq_none_of_hasPart h hx)
  · intro h
    cases hfault : c.fault? fields allowUnknown name with
    | none => rfl
    | some e =>
        obtain ⟨x, hx, hdefect⟩ := exists_part_of_fault? hfault
        exact ((h x hx).not_hasDefect hdefect).elim

end Condition

end Formwork
