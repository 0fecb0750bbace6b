import Formwork.Condition.Json
import Formwork.Proofs.Condition.Parts
import Formwork.Proofs.Json.Structures

/-!
# Conditions that are written and read back

A rule is written with its operand if it has one.  An operand that is null looks, once it
is written, like one that is missing, and is read as such; everything else of a condition is
read back as it was.

* `Condition.AllRules` — what is asked of all rules in a condition;
* `Condition.Writable` — the conditions that a text can carry;
* `Condition.forgetNulls` — a condition without the operands that are null;
* `Condition.reads_toValue` — this is what is read where a condition was written;
* `Condition.forgetNulls_eq_self_iff` — it is the same condition exactly if no operand of it
  is null;
* `Condition.explain_forgetNulls` — it is evaluated in the same way where the evaluation comes
  to no such operand.
-/

namespace Formwork

open Formwork.Tree Value

/-! ## Operands -/

/-- A value that is there and not null. -/
def Value.unlessNull : Option Value → Option Value
  | some .null => none
  | value => value

/-- Only a null for an operand is lost. -/
theorem Value.unlessNull_eq_self_iff {value : Option Value} :
    unlessNull value = value ↔ value ≠ some .null := by
  unfold unlessNull
  split <;> simp_all

/-- A value that may be missing is read back, but for null. -/
theorem Tree.readsSlot_optional_value {value : Option Value} (h : SlotWritable value) :
    ReadsSlot (Tree.optional value?) value (unlessNull value) := by
  unfold unlessNull
  split
  · exact readsSlot_optional_null value?
  · rename_i hnull
    cases value with
    | none => exact readsSlot_optional_none value?
    | some v => exact (reads_value (h v rfl)).optional fun hv => hnull (by rw [hv])

/-! ## Rules -/

namespace Rule

/-- A text can carry the rule: its operator is known by its tag, and it can carry the operand. -/
structure Writable (r : Rule) : Prop where
  op : Operator.ofTag r.op.tag = r.op
  value : SlotWritable r.value

/-- The rule without its operand if that is null. -/
def forgetNull (r : Rule) : Rule := { r with value := unlessNull r.value }

def slots (r : Rule) : List MemberSlot :=
  [("field", some (.text r.field)), ("op", some (.text r.op.tag)), ("value", r.value)]

/-- A rule is written as its slots say. -/
theorem toMembers_eq_ofSlots (r : Rule) : r.toMembers = ofSlots r.slots := by
  unfold toMembers slots
  cases r.value <;> rfl

/-- Its slots are read as the rule, without an operand if this was null. -/
theorem ofMembers?_slots {r : Rule} (h : r.Writable) (room : Nat) :
    ofMembers? (r.slots.map fun s => s.2.map (ofValueWithin room)) =
      if depthOfMembers (ofSlots r.slots) ≤ room then some r.forgetNull else none := by
  have hfield := (reads_text r.field).required room
  have hop := (reads_text r.op.tag).required room
  have hvalue := readsSlot_optional_value h.value room
  simp only [slots, List.map_cons, List.map_nil, ofMembers?, hfield, hop, hvalue, bind_ite, h.op,
    fits_cons_iff, fits_nil_iff, and_true, ite_and]
  rfl

/-- A rule can be written if its operand can. -/
theorem writable_toMembers {r : Rule} (h : r.Writable) : (record r.toMembers).Writable := by
  rw [toMembers_eq_ofSlots]
  refine writable_ofSlots (by simp [slots]) ?_
  simp only [slots, List.forall_mem_cons]
  exact ⟨slotWritable_some (.text _), slotWritable_some (.text _), h.value, nofun⟩

end Rule

namespace Condition

/-! ## What is asked of all rules -/

/-- All rules in the condition have the property. -/
def AllRules (p : Rule → Prop) (c : Condition) : Prop := ∀ r, HasPart c (.rule r) → p r

section AllRules

variable {p : Rule → Prop}

/-- Of a rule it is asked of this rule. -/
theorem allRules_rule_iff {r : Rule} : (rule r).AllRules p ↔ p r := by
  constructor
  · intro h
    exact h r (.here _)
  · intro h s hs
    cases hs with
    | here => exact h

/-- Of a group it is asked of all members. -/
theorem allRules_all_iff {items : List Condition} :
    (all items).AllRules p ↔ ∀ c ∈ items, c.AllRules p := by
  constructor
  · intro h c hc r hr
    exact h r (.all hc hr)
  · intro h r hr
    cases hr with
    | all hc hr => exact h _ hc r hr

/-- It makes no difference which of them the group needs. -/
theorem allRules_any_iff {items : List Condition} :
    (any items).AllRules p ↔ ∀ c ∈ items, c.AllRules p := by
  constructor
  · intro h c hc r hr
    exact h r (.any hc hr)
  · intro h r hr
    cases hr with
    | any hc hr => exact h _ hc r hr

/-- Of a group with two lists it is asked of both. -/
theorem allRules_conflicting_iff {xs ys : List Condition} :
    (conflicting xs ys).AllRules p ↔ (∀ c ∈ xs, c.AllRules p) ∧ ∀ c ∈ ys, c.AllRules p := by
  constructor
  · intro h
    exact ⟨fun c hc r hr => h r (.conflictingAll hc hr),
      fun c hc r hr => h r (.conflictingAny hc hr)⟩
  · intro h r hr
    cases hr with
    | conflictingAll hc hr => exact h.1 _ hc r hr
    | conflictingAny hc hr => exact h.2 _ hc r hr

end AllRules

/-! ## Groups -/

mutual

/-- The condition without the operands that are null. -/
def forgetNulls : Condition → Condition
  | .rule r => .rule r.forgetNull
  | .all items => .all (forgetNullsOf items)
  | .any items => .any (forgetNullsOf items)
  | .unset => .unset
  | .conflicting xs ys => .conflicting (forgetNullsOf xs) (forgetNullsOf ys)

/-- Several conditions without the operands that are null. -/
def forgetNullsOf : List Condition → List Condition
  | [] => []
  | c :: rest => c.forgetNulls :: forgetNullsOf rest

end

/-- Operands that are null are lost in one condition after the other. -/
theorem forgetNullsOf_eq_map (items : List Condition) :
    forgetNullsOf items = items.map forgetNulls := by
  induction items with
  | nil => rfl
  | cons c rest ih => rw [forgetNullsOf, ih, List.map_cons]

/-- Conditions are written one by one. -/
theorem toValues_eq_map (items : List Condition) : toValues items = items.map toValue := by
  induction items with
  | nil => rfl
  | cons c rest ih => rw [toValues, ih, List.map_cons]

/-- So they are read one by one. -/
theorem ofTrees?_eq_mapM (items : List Tree) : ofTrees? items = items.mapM ofTree? := by
  induction items with
  | nil => rfl
  | cons t rest ih =>
      rw [List.mapM_cons, ← ih, ofTrees?]
      cases ofTree? t <;> cases ofTrees? rest <;> rfl

/-- The branches of a group are read one by one, under their names. -/
theorem branchesOfMembers_eq_map (members : List (String × Tree)) :
    branchesOfMembers members = members.map fun m => (m.1, branchOf? m.2) := by
  induction members with
  | nil => rfl
  | cons m rest ih => rw [branchesOfMembers, ih, List.map_cons]

/-- A text can carry the condition: it can carry the rules in it. -/
def Writable (c : Condition) : Prop := c.AllRules Rule.Writable

/-- The lists of a group, each of which may be missing. -/
def groupSlots (xs ys : Option (List Condition)) : List MemberSlot :=
  [("and", xs.map fun items => .list (items.map toValue)),
    ("or", ys.map fun items => .list (items.map toValue))]

/-- A group that needs all is written with one list. -/
theorem toValue_all (items : List Condition) :
    (all items).toValue = .record (ofSlots (groupSlots (some items) none)) := by
  rw [toValue, toValues_eq_map]
  rfl

/-- A group that needs any is written with the other. -/
theorem toValue_any (items : List Condition) :
    (any items).toValue = .record (ofSlots (groupSlots none (some items))) := by
  rw [toValue, toValues_eq_map]
  rfl

theorem toValue_unset : unset.toValue = .record (ofSlots (groupSlots none none)) := rfl

/-- A group with two lists is written with both. -/
theorem toValue_conflicting (xs ys : List Condition) :
    (conflicting xs ys).toValue = .record (ofSlots (groupSlots (some xs) (some ys))) := by
  rw [toValue, toValues_eq_map, toValues_eq_map]
  rfl

/-- A list of conditions is read if each of them is. -/
theorem reads_branch {items : List Condition}
    (h : ∀ c ∈ items, Reads ofTree? c.toValue c.forgetNulls) :
    Reads branchOf? (.list (items.map toValue)) (some (forgetNullsOf items)) := by
  refine reads_of_items rfl fun room => ?_
  rw [branchOf?, ofTrees?_eq_mapM, mapM_written h, forgetNullsOf_eq_map]
  split <;> rfl

/-- What stands for a group is not read as a rule. -/
theorem ruleOf?_groupSlots (xs ys : Option (List Condition)) (f : Value → Tree) :
    (Tree.arrange? Rule.memberNames true
      ((ofSlots (groupSlots xs ys)).map fun m => (m.1, f m.2))).bind Rule.ofMembers? = none := by
  cases xs <;> cases ys <;>
    simp [groupSlots, Tree.arrange?, Rule.memberNames, Tree.member?, Tree.occurrences,
      Rule.ofMembers?, Tree.required]

/-- The lists of a group are found by their names, whichever of them were left out. -/
theorem groupOf?_groupSlots (xs ys : Option (List Condition)) (f : Value → Tree) :
    Tree.arrange? groupNames true
        (branchesOfMembers ((ofSlots (groupSlots xs ys)).map fun m => (m.1, f m.2))) =
      some ((groupSlots xs ys).map fun s => s.2.map (branchOf? ∘ f)) := by
  rw [branchesOfMembers_eq_map, List.map_map]
  have hnames : ((groupSlots xs ys).map Prod.fst).Nodup := by simp [groupSlots]
  exact arrange?_ofSlots (f := branchOf? ∘ f) hnames true

/-- A list of a group that may be missing is read back if its conditions are. -/
theorem branch?_slot {items : Option (List Condition)}
    (h : ∀ l ∈ items, ∀ c ∈ l, Reads ofTree? c.toValue c.forgetNulls) (room : Nat) :
    branch? ((items.map fun l => Value.list (l.map toValue)).map
        (branchOf? ∘ ofValueWithin room)) =
      if depthOfSlot (items.map fun l => Value.list (l.map toValue)) ≤ room then
        some (items.map forgetNullsOf) else none := by
  cases items with
  | none => simp [branch?, depthOfSlot]
  | some l => exact reads_branch (h l rfl) room

/-- So a group is read as the group of the lists that were written. -/
theorem reads_group (xs ys : Option (List Condition))
    (hxs : ∀ l ∈ xs, ∀ c ∈ l, Reads ofTree? c.toValue c.forgetNulls)
    (hys : ∀ l ∈ ys, ∀ c ∈ l, Reads ofTree? c.toValue c.forgetNulls) :
    Reads ofTree? (.record (ofSlots (groupSlots xs ys)))
      (ofLists (xs.map forgetNullsOf) (ys.map forgetNullsOf)) := by
  refine reads_of_members rfl fun room => ?_
  have hx := branch?_slot hxs room
  have hy := branch?_slot hys room
  simp only [ofTree?, ruleOf?_groupSlots, groupOf?_groupSlots, Option.bind_some]
  simp only [groupSlots, List.map_cons, List.map_nil, ofBranches?, hx, hy, bind_ite,
    fits_cons_iff, fits_nil_iff, and_true, ite_and]
  rfl

/-- A rule is read as itself, without an operand if this was null. -/
theorem reads_rule {r : Rule} (h : r.Writable) :
    Reads ofTree? (rule r).toValue (rule r.forgetNull) := by
  rw [toValue, Rule.toMembers_eq_ofSlots]
  refine reads_of_members rfl fun room => ?_
  have hnames : (r.slots.map Prod.fst).Nodup := by simp [Rule.slots]
  have harrange : Tree.arrange? Rule.memberNames true _ = _ :=
    arrange?_ofSlots (f := ofValueWithin room) hnames true
  have hgroup : Tree.arrange? groupNames true (branchesOfMembers
      ((ofSlots r.slots).map fun m => (m.1, ofValueWithin room m.2))) = none := by
    simp [Rule.slots, branchesOfMembers, Tree.arrange?, groupNames]
  simp only [ofTree?, harrange, Option.bind_some, Rule.ofMembers?_slots h, hgroup,
    Option.bind_none]
  split <;> simp_all

/-- **What is read of a written condition.**  It is the condition without the operands that
are null. -/
theorem reads_toValue {c : Condition} (h : c.Writable) :
    Reads ofTree? c.toValue c.forgetNulls := by
  induction c using inductionOn with
  | rule r => exact reads_rule (allRules_rule_iff.mp h)
  | all items ih =>
      rw [toValue_all]
      refine reads_group (some items) none ?_ nofun
      rintro _ ⟨⟩ c hc
      exact ih c hc (allRules_all_iff.mp h c hc)
  | any items ih =>
      rw [toValue_any]
      refine reads_group none (some items) nofun ?_
      rintro _ ⟨⟩ c hc
      exact ih c hc (allRules_any_iff.mp h c hc)
  | unset =>
      rw [toValue_unset]
      exact reads_group none none nofun nofun
  | conflicting xs ys ihxs ihys =>
      rw [toValue_conflicting]
      refine reads_group (some xs) (some ys) ?_ ?_
      · rintro _ ⟨⟩ c hc
        exact ihxs c hc ((allRules_conflicting_iff.mp h).1 c hc)
      · rintro _ ⟨⟩ c hc
        exact ihys c hc ((allRules_conflicting_iff.mp h).2 c hc)

/-- A group can be written if its members can. -/
theorem writable_group (xs ys : Option (List Condition))
    (hxs : ∀ l ∈ xs, ∀ c ∈ l, c.toValue.Writable) (hys : ∀ l ∈ ys, ∀ c ∈ l, c.toValue.Writable) :
    (Value.record (ofSlots (groupSlots xs ys))).Writable := by
  have hlist (items : List Condition) (h : ∀ c ∈ items, c.toValue.Writable) :
      (Value.list (items.map toValue)).Writable :=
    .list (List.forall_mem_map.mpr h)
  refine writable_ofSlots (by simp [groupSlots]) ?_
  simp only [groupSlots, List.forall_mem_cons]
  exact ⟨slotWritable_map fun l hl => hlist l (hxs l hl),
    slotWritable_map fun l hl => hlist l (hys l hl), nofun⟩

/-- What a condition is written as can be carried by a text if the condition can. -/
theorem writable_toValue {c : Condition} (h : c.Writable) : c.toValue.Writable := by
  induction c using inductionOn with
  | rule r => exact Rule.writable_toMembers (allRules_rule_iff.mp h)
  | all items ih =>
      rw [toValue_all]
      refine writable_group (some items) none ?_ nofun
      rintro _ ⟨⟩ c hc
      exact ih c hc (allRules_all_iff.mp h c hc)
  | any items ih =>
      rw [toValue_any]
      refine writable_group none (some items) nofun ?_
      rintro _ ⟨⟩ c hc
      exact ih c hc (allRules_any_iff.mp h c hc)
  | unset =>
      rw [toValue_unset]
      exact writable_group none none nofun nofun
  | conflicting xs ys ihxs ihys =>
      rw [toValue_conflicting]
      refine writable_group (some xs) (some ys) ?_ ?_
      · rintro _ ⟨⟩ c hc
        exact ihxs c hc ((allRules_conflicting_iff.mp h).1 c hc)
      · rintro _ ⟨⟩ c hc
        exact ihys c hc ((allRules_conflicting_iff.mp h).2 c hc)

theorem toValue_ne_null (c : Condition) : c.toValue ≠ .null := by
  cases c <;> nofun

/-! ## Conditions that are read back as they were -/

/-- No rule in the condition has an operand that is null. -/
def NullFree (c : Condition) : Prop := c.AllRules fun r => r.value ≠ some .null

/-- Nothing is lost of a list exactly if nothing is lost of its members. -/
theorem forgetNullsOf_eq_self_iff {items : List Condition} :
    forgetNullsOf items = items ↔ ∀ c ∈ items, c.forgetNulls = c := by
  induction items with
  | nil => simp [forgetNullsOf]
  | cons c rest ih => simp [forgetNullsOf, ih]

/-- A condition is the same without the operands that are null exactly if there are none. -/
theorem forgetNulls_eq_self_iff {c : Condition} : c.forgetNulls = c ↔ c.NullFree := by
  induction c using inductionOn with
  | rule r =>
      rw [NullFree, allRules_rule_iff, ← unlessNull_eq_self_iff, forgetNulls, Rule.forgetNull]
      constructor
      · intro h
        exact congrArg Rule.value (rule.inj h)
      · intro h
        rw [h]
  | all items ih =>
      rw [NullFree, allRules_all_iff, forgetNulls, all.injEq, forgetNullsOf_eq_self_iff]
      exact forall₂_congr ih
  | any items ih =>
      rw [NullFree, allRules_any_iff, forgetNulls, any.injEq, forgetNullsOf_eq_self_iff]
      exact forall₂_congr ih
  | unset => exact iff_of_true rfl nofun
  | conflicting xs ys ihxs ihys =>
      rw [NullFree, allRules_conflicting_iff, forgetNulls, conflicting.injEq,
        forgetNullsOf_eq_self_iff, forgetNullsOf_eq_self_iff]
      exact and_congr (forall₂_congr ihxs) (forall₂_congr ihys)

/-! ## Evaluations that read no null -/

variable [PatternEngine] {values : Snapshot}

/-- A group that needs all is explained as before if no evaluation reaches an operand that is
lost. -/
theorem explainAll_forgetNullsOf {items : List Condition}
    (ih : ∀ c ∈ items, (∀ r, Reaches values c (.rule r) → r.value ≠ some .null) →
      c.forgetNulls.explain values = c.explain values)
    (h : ∀ r, ComesTo (fun b => b.evaluate values = .ok true)
      (fun c => Reaches values c (.rule r)) items → r.value ≠ some .null) :
    explainAll values (forgetNullsOf items) = explainAll values items := by
  induction items with
  | nil => rfl
  | cons c rest ihrest =>
      have hc := ih c List.mem_cons_self fun r hr => h r (comesTo_cons.mpr (Or.inl hr))
      simp only [forgetNullsOf, explainAll, hc]
      cases hexplain : c.explain values with
      | error e => rfl
      | ok t =>
          cases ht : t.outcome with
          | false => simp [ht]
          | true =>
              have hpassed : c.evaluate values = .ok true := by simp [evaluate, hexplain, ht]
              have hrest := ihrest (fun d hd => ih d (List.mem_cons_of_mem c hd))
                fun r hr => h r (comesTo_cons.mpr (Or.inr ⟨hpassed, hr⟩))
              simp [ht, hrest]

/-- So is a group that needs any. -/
theorem explainAny_forgetNullsOf {items : List Condition}
    (ih : ∀ c ∈ items, (∀ r, Reaches values c (.rule r) → r.value ≠ some .null) →
      c.forgetNulls.explain values = c.explain values)
    (h : ∀ r, ComesTo (fun b => b.evaluate values = .ok false)
      (fun c => Reaches values c (.rule r)) items → r.value ≠ some .null) :
    explainAny values (forgetNullsOf items) = explainAny values items := by
  induction items with
  | nil => rfl
  | cons c rest ihrest =>
      have hc := ih c List.mem_cons_self fun r hr => h r (comesTo_cons.mpr (Or.inl hr))
      simp only [forgetNullsOf, explainAny, hc]
      cases hexplain : c.explain values with
      | error e => rfl
      | ok t =>
          cases ht : t.outcome with
          | true => simp [ht]
          | false =>
              have hpassed : c.evaluate values = .ok false := by simp [evaluate, hexplain, ht]
              have hrest := ihrest (fun d hd => ih d (List.mem_cons_of_mem c hd))
                fun r hr => h r (comesTo_cons.mpr (Or.inr ⟨hpassed, hr⟩))
              simp [ht, hrest]

/-- An evaluation that comes to no rule whose operand is null is the same without such
operands. -/
theorem explain_forgetNulls {c : Condition}
    (h : ∀ r, Reaches values c (.rule r) → r.value ≠ some .null) :
    c.forgetNulls.explain values = c.explain values := by
  induction c using inductionOn with
  | rule r =>
      have hvalue := unlessNull_eq_self_iff.mpr (h r (.here _))
      rw [forgetNulls, Rule.forgetNull, hvalue]
  | all items ih =>
      have hitems := explainAll_forgetNullsOf ih
        fun r hr => h r (reaches_all_iff.mpr (Or.inr hr))
      simp only [forgetNulls, explain, hitems]
  | any items ih =>
      have hitems := explainAny_forgetNullsOf ih
        fun r hr => h r (reaches_any_iff.mpr (Or.inr hr))
      simp only [forgetNulls, explain, hitems]
  | unset => rfl
  | conflicting xs ys => rfl

end Condition

end Formwork
