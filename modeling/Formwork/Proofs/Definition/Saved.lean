import Formwork.Proofs.Condition.Saved
import Formwork.Proofs.Constraint.Saved
import Formwork.Proofs.Definition.Written

/-!
# Fields that were read

What is read as a field can be saved, whatever it was written like.  A default that is null is
read as one that is missing, so it is not there to be lost when the field is written.

* `FormField.Saved` — a text can carry the field, and nothing in it is null that is read as
  missing;
* `FormField.saves_ofTree?` — this is so of a field that was read.
-/

namespace Formwork

open Formwork.Tree Value

/-- A kind keeps its tag, also one that is not known. -/
theorem FieldKind.tag_ofTag (tag : String) : (FieldKind.ofTag tag).tag = tag := by
  unfold ofTag
  cases h : known.find? fun k => k.tag = tag with
  | none => rfl
  | some k => simpa using List.find?_some h

namespace Choice

theorem depthOfSlot_disabled_le (disabled : Bool) (room : Nat) :
    depthOfSlot (if disabled then some (.bool true) else none) ≤ room := by
  cases disabled <;> exact Nat.zero_le room

/-- A choice that was read can be saved. -/
theorem saves_ofTree? (room : Nat) : Saves room ofTree? toValue (fun c => c.value.Writable) := by
  intro t c hroom hread
  unfold ofTree? at hread
  refine savedIn_of_members? hroom hread ?_
  intro r members hroom hread
  split at hread
  · simp only [List.forall_mem_cons] at hroom
    obtain ⟨hlabel, hvalue, hdisabled, _⟩ := hroom
    obtain ⟨label, hlabel, hread⟩ := saves_text.required.next hlabel hread
    obtain ⟨value, hvalue, hread⟩ := (saves_value r).required.next hvalue hread
    obtain ⟨disabled, _, hread⟩ := (savesSlot_flag false).next hdisabled hread
    obtain rfl := Option.some.inj hread
    rw [toValue_eq_ofSlots]
    apply savedIn_structure <;> simp only [slots, List.forall_mem_cons]
    · exact ⟨hlabel.fits, hvalue.fits, depthOfSlot_disabled_le disabled r,
        List.forall_mem_nil _⟩
    · exact fun hreals => hvalue.kept hreals.2.1
  · cases hread

end Choice

namespace FormField

/-- The field can be saved: a text can carry it, and neither its default nor an operand in
its condition is null. -/
structure Saved (f : FormField) : Prop where
  writable : f.Writable
  default : f.defaultValue ≠ some .null
  operands : ∀ c ∈ f.showWhen, c.NullFree

/-- A field that can be saved is read back as it was. -/
theorem Saved.reads_toValue {f : FormField} (h : f.Saved) (nested : Bool) :
    Reads (ofTree? nested) f.toValue f := by
  have hself := forgetNulls_eq_self_iff.mpr ⟨h.default, h.operands⟩
  have hreads := FormField.reads_toValue h.writable nested
  rwa [hself] at hreads

/-- **A field that was read can be saved.** -/
theorem saves_ofTree? (room : Nat) (nested : Bool) :
    Saves room (ofTree? nested) toValue Saved := by
  intro t f hroom hread
  unfold ofTree? at hread
  refine savedIn_of_members? hroom hread ?_
  intro r members hroom hread
  split at hread
  · simp only [List.forall_mem_cons] at hroom
    obtain ⟨hkind, hname, hlabel, hplaceholder, hdescription, hrequired, hdisabled, hdefault,
      hvalidation, hdebounce, hshow, hstep, hoptions, hcomponent, hprops, _⟩ := hroom
    obtain ⟨kind, hkind, hread⟩ := saves_text.required.next hkind hread
    obtain ⟨name, hname, hread⟩ := saves_text.optional.next hname hread
    obtain ⟨label, hlabel, hread⟩ := saves_text.optional.next hlabel hread
    obtain ⟨placeholder, hplaceholder, hread⟩ := saves_text.optional.next hplaceholder hread
    obtain ⟨description, hdescription, hread⟩ := saves_text.optional.next hdescription hread
    obtain ⟨isRequired, hrequired, hread⟩ := (savesSlot_flag false).next hrequired hread
    obtain ⟨isDisabled, hdisabled, hread⟩ := (savesSlot_flag false).next hdisabled hread
    obtain ⟨defaultValue, hdefault, hread⟩ := savesSlot_value.next hdefault hread
    obtain ⟨validation, hvalidation, hread⟩ :=
      (Constraint.saves_ofTree? r nested).optional.next hvalidation hread
    obtain ⟨debounceMs, hdebounce, hread⟩ := saves_nat64.optional.next hdebounce hread
    obtain ⟨showWhen, hshow, hread⟩ := (Condition.saves_ofTree? r).optional.next hshow hread
    obtain ⟨step, hstep, hread⟩ := saves_nat32.optional.next hstep hread
    obtain ⟨options, hoptions, hread⟩ :=
      ((saves_list fun q _ => Choice.saves_ofTree? q).unlessEmpty
        (List.forall_mem_nil _)).next hoptions hread
    obtain ⟨component, hcomponent, hread⟩ := saves_text.optional.next hcomponent hread
    obtain ⟨props, hprops, hread⟩ :=
      (saves_valueMap.unlessEmpty
        (.record List.nodup_nil (List.forall_mem_nil _))).next hprops hread
    obtain rfl := Option.some.inj hread
    rw [toValue, toMembers_eq_ofSlots]
    apply savedIn_structure <;> simp only [slots, List.forall_mem_cons, FieldKind.tag_ofTag]
    · exact ⟨hkind.fits, hname.fits, hlabel.fits, hplaceholder.fits, hdescription.fits,
        hrequired.fits, hdisabled.fits, hdefault.fits, hvalidation.fits, hdebounce.fits,
        hshow.fits, hstep.fits, hoptions.fits, hcomponent.fits, hprops.fits,
        List.forall_mem_nil _⟩
    · rintro ⟨_, _, _, _, _, _, _, hdefaultReals, hvalidationReals, hdebounceReals, hshowReals,
        hstepReals, hoptionsReals, _, hpropsReals, _⟩
      have hshow := hshow.kept hshowReals
      have hdefault := hdefault.kept hdefaultReals
      refine ⟨?_, hdefault.2, fun c hc => (hshow c hc).nullFree⟩
      exact {
        kind := by rw [FieldKind.tag_ofTag]
        defaultValue := hdefault.1
        validation := hvalidation.kept hvalidationReals
        validator := rfl
        debounceMs := hdebounce.kept hdebounceReals
        showWhen := fun c hc => (hshow c hc).writable
        step := hstep.kept hstepReals
        options := hoptions.kept hoptionsReals
        props := hprops.kept hpropsReals }
  · cases hread

end FormField

end Formwork
