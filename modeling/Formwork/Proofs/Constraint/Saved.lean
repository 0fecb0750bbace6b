import Formwork.Proofs.Constraint.Written
import Formwork.Proofs.Json.Saved

/-!
# Constraints that were read

What is read as a constraint can be saved.  A bound may have been written as an integer; it is
kept as the binary64 number that it was read as.

* `Constraint.saves_ofTree?` — a text can carry a constraint that was read.
-/

namespace Formwork

open Formwork.Tree Value

/-- A format that was read is written as a text, whether it was one or not. -/
theorem TextFormat.saves_ofTree? (room : Nat) :
    Saves room ofTree? (fun f => .text f.name) fun _ => True :=
  fun _ _ _ _ => savedIn_flat rfl fun _ => trivial

namespace Constraint

variable {room : Nat} {members : List (Option Tree)} {c : Constraint}

/-- A constraint can be saved if its members can. -/
theorem savedIn_of_slots (hfits : ∀ s ∈ c.slots, depthOfSlot s.2 ≤ room)
    (hkept : (∀ s ∈ c.slots, ∀ v ∈ s.2, v.RealsReadBack) → c.Writable) :
    SavedIn (room + 1) (some c.toValue) c.Writable := by
  rw [toValue_eq_ofSlots]
  exact (savedIn_structure hfits hkept).tagged "type" c.typeName

/-- A text constraint that was read can be saved. -/
theorem savedIn_textOfMembers? (hroom : ∀ m ∈ members, ∀ u ∈ m, u.FitsIn room)
    (h : textOfMembers? members = some c) : SavedIn (room + 1) (some c.toValue) c.Writable := by
  unfold textOfMembers? at h
  split at h
  · simp only [List.forall_mem_cons] at hroom
    obtain ⟨hlo, hhi, hpattern, hformat, hmessage, _⟩ := hroom
    obtain ⟨lo, hlo, h⟩ := saves_nat64.orNull.next hlo h
    obtain ⟨hi, hhi, h⟩ := saves_nat64.orNull.next hhi h
    obtain ⟨pattern, hpattern, h⟩ := saves_text.orNull.next hpattern h
    obtain ⟨format, hformat, h⟩ := (TextFormat.saves_ofTree? room).orNull.next hformat h
    obtain ⟨message, hmessage, h⟩ := saves_text.orNull.next hmessage h
    obtain rfl := Option.some.inj h
    apply savedIn_of_slots <;> simp only [slots, List.forall_mem_cons]
    · exact ⟨hlo.fits, hhi.fits, hpattern.fits, hformat.fits, hmessage.fits, List.forall_mem_nil _⟩
    · rintro ⟨hrealslo, hrealshi, _⟩
      exact ⟨hlo.kept hrealslo, hhi.kept hrealshi⟩
  · cases h

/-- So can a number constraint. -/
theorem savedIn_numberOfMembers? (hroom : ∀ m ∈ members, ∀ u ∈ m, u.FitsIn room)
    (h : numberOfMembers? members = some c) :
    SavedIn (room + 1) (some c.toValue) c.Writable := by
  unfold numberOfMembers? at h
  split at h
  · simp only [List.forall_mem_cons] at hroom
    obtain ⟨hlo, hhi, hinteger, hmessage, _⟩ := hroom
    obtain ⟨lo, hlo, h⟩ := saves_real.orNull.next hlo h
    obtain ⟨hi, hhi, h⟩ := saves_real.orNull.next hhi h
    obtain ⟨integer, hinteger, h⟩ := (savesSlot_flag false).next hinteger h
    obtain ⟨message, hmessage, h⟩ := saves_text.orNull.next hmessage h
    obtain rfl := Option.some.inj h
    apply savedIn_of_slots <;> simp only [slots, List.forall_mem_cons]
    · exact ⟨hlo.fits, hhi.fits, hinteger.fits, hmessage.fits, List.forall_mem_nil _⟩
    · rintro ⟨hrealslo, hrealshi, _⟩
      exact ⟨hlo.kept hrealslo, hhi.kept hrealshi⟩
  · cases h

/-- So can a constraint on truth values. -/
theorem savedIn_booleanOfMembers? (hroom : ∀ m ∈ members, ∀ u ∈ m, u.FitsIn room)
    (h : booleanOfMembers? members = some c) :
    SavedIn (room + 1) (some c.toValue) c.Writable := by
  unfold booleanOfMembers? at h
  split at h
  · simp only [List.forall_mem_cons] at hroom
    obtain ⟨hmust, hmessage, _⟩ := hroom
    obtain ⟨must, hmust, h⟩ := (savesSlot_flag false).next hmust h
    obtain ⟨message, hmessage, h⟩ := saves_text.orNull.next hmessage h
    obtain rfl := Option.some.inj h
    apply savedIn_of_slots <;> simp only [slots, List.forall_mem_cons]
    · exact ⟨hmust.fits, hmessage.fits, List.forall_mem_nil _⟩
    · exact fun _ => trivial
  · cases h

/-- So can a choice of one value. -/
theorem savedIn_oneOfMembers? (hroom : ∀ m ∈ members, ∀ u ∈ m, u.FitsIn room)
    (h : oneOfMembers? members = some c) : SavedIn (room + 1) (some c.toValue) c.Writable := by
  unfold oneOfMembers? at h
  split at h
  · simp only [List.forall_mem_cons] at hroom
    obtain ⟨hvalues, hmessage, _⟩ := hroom
    obtain ⟨values, hvalues, h⟩ := saves_values.required.next hvalues h
    obtain ⟨message, hmessage, h⟩ := saves_text.orNull.next hmessage h
    obtain rfl := Option.some.inj h
    apply savedIn_of_slots <;> simp only [slots, List.forall_mem_cons]
    · exact ⟨hvalues.fits, hmessage.fits, List.forall_mem_nil _⟩
    · exact fun hreals => hvalues.kept hreals.1
  · cases h

/-- So can a choice of many. -/
theorem savedIn_manyOfMembers? (hroom : ∀ m ∈ members, ∀ u ∈ m, u.FitsIn room)
    (h : manyOfMembers? members = some c) : SavedIn (room + 1) (some c.toValue) c.Writable := by
  unfold manyOfMembers? at h
  split at h
  · simp only [List.forall_mem_cons] at hroom
    obtain ⟨hlo, hhi, hallowed, hmessage, _⟩ := hroom
    obtain ⟨lo, hlo, h⟩ := saves_nat64.orNull.next hlo h
    obtain ⟨hi, hhi, h⟩ := saves_nat64.orNull.next hhi h
    obtain ⟨allowed, hallowed, h⟩ := saves_values.orNull.next hallowed h
    obtain ⟨message, hmessage, h⟩ := saves_text.orNull.next hmessage h
    obtain rfl := Option.some.inj h
    apply savedIn_of_slots <;> simp only [slots, List.forall_mem_cons]
    · exact ⟨hlo.fits, hhi.fits, hallowed.fits, hmessage.fits, List.forall_mem_nil _⟩
    · rintro ⟨hrealslo, hrealshi, hrealsallowed, _⟩
      exact ⟨hlo.kept hrealslo, hhi.kept hrealshi, hallowed.kept hrealsallowed⟩
  · cases h

/-- A constraint that has nothing but a message. -/
theorem savedIn_messageOnly? {make : Option String → Constraint}
    (hslots : ∀ message, (make message).slots = [("message", some (orNull message .text))])
    (hwritable : ∀ message, (make message).Writable)
    (hroom : ∀ m ∈ members, ∀ u ∈ m, u.FitsIn room)
    (h : ((messageOnly? members).bind fun message => some (make message)) = some c) :
    SavedIn (room + 1) (some c.toValue) c.Writable := by
  obtain ⟨message, hread, hc⟩ := Option.bind_eq_some_iff.mp h
  obtain rfl := Option.some.inj hc
  unfold messageOnly? at hread
  split at hread
  · simp only [List.forall_mem_cons] at hroom
    have hmessage := saves_text.orNull hroom.1 hread
    apply savedIn_of_slots <;> simp only [hslots, List.forall_mem_cons]
    · exact ⟨hmessage.fits, List.forall_mem_nil _⟩
    · exact fun _ => hwritable message
  · cases hread

/-- A constraint that only says its type. -/
theorem savedIn_ofNothing? {t : Tree} (hroom : t.FitsIn room) (h : ofNothing? t = some c) :
    SavedIn room (some c.toValue) c.Writable := by
  have hany : SavedIn 1 (some any.toValue) any.Writable :=
    savedIn_of_slots nofun fun _ => trivial
  unfold ofNothing? at h
  split at h <;> cases h <;> cases hroom
  · exact ⟨Nat.le_trans hany.fits (Nat.le_add_left 1 _), hany.kept⟩
  · exact ⟨Nat.le_trans hany.fits (Nat.le_add_left 1 _), hany.kept⟩

/-- **A constraint that was read can be saved.** -/
theorem saves_ofTree? (room : Nat) (nested : Bool) :
    Saves room (ofTree? nested) toValue Writable := by
  intro t c hroom hread
  unfold ofTree? at hread
  simp only [Option.bind_eq_bind] at hread
  obtain ⟨⟨kind, body⟩, htagged, hread⟩ := Option.bind_eq_some_iff.mp hread
  have hbody := fitsIn_of_tagged? hroom htagged
  dsimp only at hread
  split at hread
  · exact savedIn_ofNothing? hbody hread
  · exact savedIn_of_members? hbody hread savedIn_textOfMembers?
  · exact savedIn_of_members? hbody hread savedIn_numberOfMembers?
  · exact savedIn_of_members? hbody hread savedIn_booleanOfMembers?
  · exact savedIn_of_members? hbody hread savedIn_oneOfMembers?
  · exact savedIn_of_members? hbody hread savedIn_manyOfMembers?
  · exact savedIn_of_members? hbody hread
      (savedIn_messageOnly? (fun _ => rfl) fun _ => trivial)
  · exact savedIn_of_members? hbody hread
      (savedIn_messageOnly? (fun _ => rfl) fun _ => trivial)
  · cases hread

end Constraint

end Formwork
