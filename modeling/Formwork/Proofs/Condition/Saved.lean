import Formwork.Proofs.Condition.Written
import Formwork.Proofs.Json.Saved

/-!
# Conditions that were read

A condition can be written in many ways: rules and groups as lists, null for a list that is
not set, members in any order.  What is read of them all can be saved, and is then read back
as it was.

* `Condition.ofTree?_eq` — a condition is read as a rule, or else as a group of two lists;
* `Condition.saves_ofTree?` — a condition that was read can be saved: a text can carry it, and
  no operand in it is null.
-/

namespace Formwork

open Formwork.Tree Value

/-- An operator keeps its tag, also one that is not known. -/
theorem Operator.tag_ofTag (tag : String) : (Operator.ofTag tag).tag = tag := by
  unfold ofTag
  split <;> rfl

namespace Rule

/-- The rule can be saved: a text can carry it, and its operand is not null. -/
structure Saved (r : Rule) : Prop where
  writable : r.Writable
  operand : r.value ≠ some .null

/-- A rule that was read can be saved. -/
theorem savedIn_ofMembers? {room : Nat} {members : List (Option Tree)} {r : Rule}
    (hfits : ∀ m ∈ members, ∀ u ∈ m, u.FitsIn room) (h : ofMembers? members = some r) :
    SavedIn (room + 1) (some (.record r.toMembers)) r.Saved := by
  unfold ofMembers? at h
  split at h
  · simp only [List.forall_mem_cons] at hfits
    obtain ⟨hfield, hop, hvalue, _⟩ := hfits
    obtain ⟨field, hfield, h⟩ := saves_text.required.next hfield h
    obtain ⟨op, hop, h⟩ := saves_text.required.next hop h
    obtain ⟨value, hvalue, h⟩ := savesSlot_value.next hvalue h
    obtain rfl := Option.some.inj h
    rw [toMembers_eq_ofSlots]
    apply savedIn_structure <;> simp only [slots, List.forall_mem_cons, Operator.tag_ofTag]
    · exact ⟨hfield.fits, hop.fits, hvalue.fits, List.forall_mem_nil _⟩
    · rintro ⟨_, _, hreals, _⟩
      have hkept := hvalue.kept hreals
      exact ⟨⟨by rw [Operator.tag_ofTag], hkept.1⟩, hkept.2⟩
  · cases h

end Rule

namespace Condition

/-- The condition can be saved: a text can carry it, and no operand in it is null. -/
def Saved (c : Condition) : Prop := c.AllRules Rule.Saved

theorem Saved.writable {c : Condition} (h : c.Saved) : c.Writable :=
  fun r hr => (h r hr).writable

theorem Saved.nullFree {c : Condition} (h : c.Saved) : c.NullFree :=
  fun r hr => (h r hr).operand

/-- A condition that can be saved is read back as it was. -/
theorem Saved.reads_toValue {c : Condition} (h : c.Saved) : Reads ofTree? c.toValue c := by
  have hreads := Condition.reads_toValue h.writable
  rwa [forgetNulls_eq_self_iff.mpr h.nullFree] at hreads

/-! ## Groups -/

/-- A group from its two lists, null standing for one that is not set. -/
def ofGroupMembers? : List (Option Tree) → Option Condition
  | [xs, ys] => do
    return ofLists (← Tree.optional (Tree.list? ofTree?) xs)
      (← Tree.optional (Tree.list? ofTree?) ys)
  | _ => none

/-- A branch of a group is an optional list of conditions. -/
theorem branch?_eq_optional (m : Option Tree) :
    branch? (m.map branchOf?) = Tree.optional (Tree.list? ofTree?) m := by
  cases m with
  | none => rfl
  | some t =>
      cases t with
      | list items => simp [branch?, branchOf?, Tree.optional, Tree.list?, ofTrees?_eq_mapM]
      | _ => rfl

/-- It makes no difference whether the branches are read before or after they are arranged. -/
theorem ofBranches?_map (members : List (Option Tree)) :
    ofBranches? (members.map (Option.map branchOf?)) = ofGroupMembers? members := by
  match members with
  | [] => rfl
  | [_] => rfl
  | [xs, ys] =>
      simp only [List.map_cons, List.map_nil, ofBranches?, ofGroupMembers?, branch?_eq_optional]
  | _ :: _ :: _ :: _ => rfl

/-- The branches of a group that is given as a list are read one by one. -/
theorem branchesOfItems_eq_map (items : List Tree) : branchesOfItems items =
    items.map branchOf? := by
  induction items with
  | nil => rfl
  | cons t rest ih => rw [branchesOfItems, ih, List.map_cons]

/-- A condition is read as a rule, or else as a group. -/
theorem ofTree?_eq (t : Tree) : ofTree? t =
    (((t.members? Rule.memberNames true).bind Rule.ofMembers?).map rule).or
      ((t.members? groupNames true).bind ofGroupMembers?) := by
  have hgroup (arranged : Option (List (Option Tree))) :
      (arranged.map (List.map (Option.map branchOf?))).bind ofBranches? =
        arranged.bind ofGroupMembers? := by
    cases arranged with
    | none => rfl
    | some members => exact ofBranches?_map members
  cases t with
  | record members =>
      rw [ofTree?, branchesOfMembers_eq_map, arrange?_map, hgroup]
      simp only [Tree.members?]
      cases (arrange? Rule.memberNames true members).bind Rule.ofMembers? <;> rfl
  | list items =>
      rw [ofTree?, branchesOfItems_eq_map, arrangeItems?_map, hgroup]
      simp only [Tree.members?]
      cases (arrangeItems? Rule.memberNames items).bind Rule.ofMembers? <;> rfl
  | _ => rfl

/-- The written form of a group with these two lists. -/
theorem toValue_ofLists (xs ys : Option (List Condition)) :
    (ofLists xs ys).toValue = .record (ofSlots (groupSlots xs ys)) := by
  match xs, ys with
  | some xs, some ys => exact toValue_conflicting xs ys
  | some xs, none => exact toValue_all xs
  | none, some ys => exact toValue_any ys
  | none, none => exact toValue_unset

/-- What holds of all rules in two lists holds of all rules of their group. -/
theorem allRules_ofLists {p : Rule → Prop} {xs ys : Option (List Condition)}
    (hxs : ∀ l ∈ xs, ∀ c ∈ l, c.AllRules p) (hys : ∀ l ∈ ys, ∀ c ∈ l, c.AllRules p) :
    (ofLists xs ys).AllRules p := by
  match xs, ys with
  | some xs, some ys => exact allRules_conflicting_iff.mpr ⟨hxs xs rfl, hys ys rfl⟩
  | some xs, none => exact allRules_all_iff.mpr (hxs xs rfl)
  | none, some ys => exact allRules_any_iff.mpr (hys ys rfl)
  | none, none => nofun

/-! ## Conditions -/

/-- A group that was read can be saved if all that was read with less room can be. -/
theorem savedIn_ofGroupMembers? {room : Nat} {members : List (Option Tree)} {c : Condition}
    (ih : ∀ r < room, Saves r ofTree? toValue Saved)
    (hfits : ∀ m ∈ members, ∀ u ∈ m, u.FitsIn room) (h : ofGroupMembers? members = some c) :
    SavedIn (room + 1) (some c.toValue) c.Saved := by
  unfold ofGroupMembers? at h
  split at h
  · simp only [List.forall_mem_cons] at hfits
    obtain ⟨hxs, hys, _⟩ := hfits
    obtain ⟨xs, hxs, h⟩ := (saves_list ih).optional.next hxs h
    obtain ⟨ys, hys, h⟩ := (saves_list ih).optional.next hys h
    obtain rfl := Option.some.inj h
    rw [toValue_ofLists]
    apply savedIn_structure <;> simp only [groupSlots, List.forall_mem_cons]
    · exact ⟨hxs.fits, hys.fits, List.forall_mem_nil _⟩
    · rintro ⟨hrealsxs, hrealsys, _⟩
      exact allRules_ofLists (hxs.kept hrealsxs) (hys.kept hrealsys)
  · cases h

/-- **A condition that was read can be saved.**  The induction is on the room: the conditions
in a group have less of it. -/
theorem saves_ofTree? (room : Nat) : Saves room ofTree? toValue Saved := by
  induction room using Nat.strongRecOn with
  | ind room ih =>
      intro t c hroom hread
      rw [ofTree?_eq, Option.or_eq_some_iff] at hread
      rcases hread with hrule | ⟨_, hgroup⟩
      · obtain ⟨r, hr, rfl⟩ := Option.map_eq_some_iff.mp hrule
        have hsaved := savedIn_of_members? hroom hr Rule.savedIn_ofMembers?
        exact ⟨hsaved.fits, fun hreals => allRules_rule_iff.mpr (hsaved.kept hreals)⟩
      · obtain ⟨members, hmembers, hc⟩ := Option.bind_eq_some_iff.mp hgroup
        obtain ⟨room, rfl, hfits⟩ := exists_room_of_members? hroom hmembers
        exact savedIn_ofGroupMembers? (fun r hr => ih r (Nat.lt_succ_of_lt hr)) hfits hc

end Condition

end Formwork
