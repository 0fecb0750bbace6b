import Formwork.Json.Tagged
import Formwork.Proofs.Json.Nesting
import Formwork.Proofs.Lists

/-!
# Structures as they are written

A structure is written as the record of its members in declared order, those without a
value left out.  A list of slots says this for a structure: every member by its name, with
the value that is written for it if there is one.  What is read of such a record are the
slots again, whichever of them were left out.

* `Value.ofSlots` — the members that are written of a list of slots;
* `Tree.arrange?_ofSlots` — they come back in declared order;
* `Tree.ReadsSlot` — a reader of a single member gives this for a slot;
* `Tree.reads_structure` — a structure is read back if its slots are.
-/

namespace Formwork

/-- A member of a structure by its name, with the value that is written if there is one. -/
abbrev MemberSlot := String × Option Value

namespace Value

/-- The members that are written of a structure. -/
def ofSlots (slots : List MemberSlot) : List (String × Value) :=
  slots.filterMap fun s => s.2.map fun v => (s.1, v)

/-- How many lists and records nest in the value of a slot. -/
def depthOfSlot : Option Value → Nat
  | none => 0
  | some v => v.depth

variable {name : String} {v : Value} {slots : List MemberSlot}

@[simp] theorem ofSlots_nil : ofSlots [] = [] := rfl

@[simp] theorem ofSlots_cons_some :
    ofSlots ((name, some v) :: slots) = (name, v) :: ofSlots slots := rfl

@[simp] theorem ofSlots_cons_none : ofSlots ((name, none) :: slots) = ofSlots slots := rfl

/-- A slot that is written as a member if it has a value. -/
theorem ofSlots_cons_map {α : Type} (value : Option α) (write : α → Value) :
    ofSlots ((name, value.map write) :: slots) = memberIf name value write ++ ofSlots slots := by
  cases value <;> rfl

/-- A member is written exactly if its slot has a value. -/
theorem mem_ofSlots_iff {m : String × Value} :
    m ∈ ofSlots slots ↔ (m.1, some m.2) ∈ slots := by
  simp only [ofSlots, List.mem_filterMap, Option.map_eq_some_iff, Prod.exists]
  constructor
  · intro h
    obtain ⟨k, _, hmem, w, rfl, rfl⟩ := h
    exact hmem
  · intro h
    exact ⟨m.1, some m.2, h, m.2, rfl, rfl⟩

/-- Members are written in declared order. -/
theorem keys_ofSlots_sublist : (Entries.keys (ofSlots slots)).Sublist (slots.map Prod.fst) := by
  refine map_filterMap_sublist (fun s m hm => ?_) slots
  obtain ⟨_, _, rfl⟩ := Option.map_eq_some_iff.mp hm
  rfl

/-- A text can carry the value of a slot, if there is one. -/
def SlotWritable (value : Option Value) : Prop := ∀ v ∈ value, v.Writable

/-- A slot with a value can be written if its value can. -/
theorem slotWritable_some (h : v.Writable) : SlotWritable (some v) := by
  rintro _ ⟨⟩
  exact h

theorem slotWritable_none : SlotWritable none := nofun

section Members

variable {α : Type} {value : Option α} {write : α → Value}

/-- A slot that is left out where there is no value can be written. -/
theorem slotWritable_map (h : ∀ a ∈ value, (write a).Writable) :
    SlotWritable (value.map write) := by
  cases value with
  | none => exact slotWritable_none
  | some a => exact slotWritable_some (h a rfl)

/-- So can one that is null there. -/
theorem slotWritable_orNull (h : ∀ a ∈ value, (write a).Writable) :
    SlotWritable (some (orNull value write)) := by
  cases value with
  | none => exact slotWritable_some .null
  | some a => exact slotWritable_some (h a rfl)

theorem slotWritable_text (s : Option String) : SlotWritable (s.map .text) :=
  slotWritable_map fun a _ => .text a

/-- A list that is left out when it is empty. -/
theorem slotWritable_list {items : List α} (h : ∀ a ∈ items, (write a).Writable) :
    SlotWritable (if items.isEmpty then none else some (.list (items.map write))) := by
  split
  · exact slotWritable_none
  · exact slotWritable_some (.list (List.forall_mem_map.mpr h))

/-- A map can be written if its values can and no key comes twice. -/
theorem writable_map {pairs : Entries α} (hkeys : pairs.Distinct)
    (h : ∀ p ∈ pairs, (write p.2).Writable) :
    (record (pairs.map fun p => (p.1, write p.2))).Writable := by
  refine .record ?_ (List.forall_mem_map.mpr h)
  simpa [Entries.Distinct, Entries.keys, Function.comp_def] using hkeys

end Members

/-- A structure whose members a text can carry is carried itself. -/
theorem writable_ofSlots (hnames : (slots.map Prod.fst).Nodup)
    (hslots : ∀ s ∈ slots, SlotWritable s.2) : (record (ofSlots slots)).Writable := by
  refine .record (hnames.sublist keys_ofSlots_sublist) ?_
  intro m hm
  exact hslots _ (mem_ofSlots_iff.mp hm) _ rfl

end Value

namespace Tree

open Value

/-! ## The members in declared order -/

section Arrange

variable {α : Type} {f : Value → α} {slots : List MemberSlot} {name : String}

/-- A name that no slot has does not occur among the members that are written. -/
theorem occurrences_of_not_mem (h : name ∉ slots.map Prod.fst) :
    occurrences ((ofSlots slots).map fun m => (m.1, f m.2)) name = [] := by
  unfold occurrences
  rw [List.filterMap_eq_nil_iff, List.forall_mem_map]
  intro m hm
  have hne : m.1 ≠ name := by
    rintro rfl
    exact h (List.mem_map_of_mem (mem_ofSlots_iff.mp hm))
  rw [if_neg hne]

/-- The name of a slot occurs once if the slot has a value, and else not at all. -/
theorem occurrences_ofSlots (hnames : (slots.map Prod.fst).Nodup) {value : Option Value}
    (h : (name, value) ∈ slots) :
    occurrences ((ofSlots slots).map fun m => (m.1, f m.2)) name = (value.map f).toList := by
  induction slots with
  | nil => cases h
  | cons s rest ih =>
      obtain ⟨k, first⟩ := s
      obtain ⟨hk, hrest⟩ := List.nodup_cons.mp hnames
      rcases List.mem_cons.mp h with heq | hmem
      · obtain ⟨rfl, rfl⟩ := Prod.mk.inj heq
        have hothers := occurrences_of_not_mem (f := f) hk
        cases value with
        | none => exact hothers
        | some v => simpa [occurrences] using hothers
      · have hne : k ≠ name := by
          rintro rfl
          exact hk (List.mem_map.mpr ⟨_, hmem, rfl⟩)
        rw [← ih hrest hmem]
        cases first with
        | none => rfl
        | some v => simp [occurrences, hne]

/-- So a member is found by its name as its slot has it. -/
theorem member?_ofSlots (hnames : (slots.map Prod.fst).Nodup) {value : Option Value}
    (h : (name, value) ∈ slots) :
    member? ((ofSlots slots).map fun m => (m.1, f m.2)) name = some (value.map f) := by
  rw [member?, occurrences_ofSlots hnames h]
  cases value <;> rfl

/-- The members of a structure come back in declared order, those that were left out too. -/
theorem arrange?_ofSlots (hnames : (slots.map Prod.fst).Nodup) (closed : Bool) :
    arrange? (slots.map Prod.fst) closed ((ofSlots slots).map fun m => (m.1, f m.2)) =
      some (slots.map fun s => s.2.map f) := by
  have hown : ((ofSlots slots).map fun m => (m.1, f m.2)).all
      (fun m => (slots.map Prod.fst).contains m.1) = true := by
    rw [List.all_eq_true, List.forall_mem_map]
    intro m hm
    exact List.contains_iff_mem.mpr (List.mem_map_of_mem (mem_ofSlots_iff.mp hm))
  have hmembers := mapM_eq_ite (p := fun _ => True) (l := slots)
    (f := fun s => member? ((ofSlots slots).map fun m => (m.1, f m.2)) s.1)
    (g := fun s => s.2.map f) (by
      intro s hs
      rw [if_pos trivial]
      exact member?_ofSlots hnames hs)
  simp only [implies_true, if_true] at hmembers
  rw [arrange?, hown, Bool.not_true, Bool.and_false, if_neg Bool.false_ne_true, List.mapM_map]
  exact hmembers

end Arrange

/-! ## Single members -/

/-- Where a slot was written, something is read in its place if there is room for it, and
nothing if there is not. -/
def ReadsSlot {α : Type} (read : Option Tree → Option α) (value : Option Value) (x : α) : Prop :=
  ∀ room, read (value.map (ofValueWithin room)) =
    if depthOfSlot value ≤ room then some x else none

/-- Only null gives the tree of null, however little room there is. -/
theorem ofValueWithin_ne_null {v : Value} (h : v ≠ .null) (room : Nat) :
    ofValueWithin room v ≠ .null := by
  have hwithin {t : Tree} (ht : t ≠ .null) : JsonText.within room t ≠ .null := by
    unfold JsonText.within
    split
    · simp
    · exact ht
  cases v with
  | null => exact absurd rfl h
  | list items =>
      rw [ofValueWithin]
      exact hwithin (by simp)
  | record members =>
      rw [ofValueWithin]
      exact hwithin (by simp)
  | _ => simp [ofValueWithin]

section Slots

variable {α β : Type} {read : Tree → Option β} {v : Value} {x : β}

theorem Reads.required (h : Reads read v x) : ReadsSlot (required read) (some v) x := h

theorem Reads.orDefault (h : Reads read v x) (fallback : β) :
    ReadsSlot (orDefault fallback read) (some v) x := h

/-- Where a member is missing, its default is read. -/
theorem readsSlot_orDefault_none (fallback : β) (read : Tree → Option β) :
    ReadsSlot (Tree.orDefault fallback read) none fallback := by
  intro room
  simp [Tree.orDefault, depthOfSlot]

/-- An optional member that is missing is read as none. -/
theorem readsSlot_optional_none (read : Tree → Option β) :
    ReadsSlot (Tree.optional read) none none := by
  intro room
  simp [Tree.optional, depthOfSlot]

/-- Null is read as a member that is missing. -/
theorem readsSlot_optional_null (read : Tree → Option β) :
    ReadsSlot (Tree.optional read) (some .null) none := by
  intro room
  simp [Tree.optional, ofValueWithin, depthOfSlot, depth]

/-- An optional member is read where it is, if it is not null. -/
theorem Reads.optional (h : Reads read v x) (hv : v ≠ .null) :
    ReadsSlot (optional read) (some v) (some x) := by
  intro room
  have hread : Tree.optional read (some (ofValueWithin room v)) =
      (read (ofValueWithin room v)).map some := by
    have hnull := ofValueWithin_ne_null hv room
    unfold Tree.optional
    split <;> simp_all
  rw [Option.map_some, hread, h room, depthOfSlot]
  split <;> rfl

/-- A member that may be missing is read back if its value, when there is one, is read back
and is not written as null. -/
theorem readsSlot_optional_map {value : Option α} {write : α → Value} {back : α → β}
    (h : ∀ a ∈ value, Reads read (write a) (back a)) (hnull : ∀ a, write a ≠ .null) :
    ReadsSlot (Tree.optional read) (value.map write) (value.map back) := by
  cases value with
  | none => exact readsSlot_optional_none read
  | some a => exact (h a rfl).optional (hnull a)

/-- So an optional member is read back, whether it was left out or not. -/
theorem readsSlot_optional {value : Option β} {write : β → Value}
    (h : ∀ a ∈ value, Reads read (write a) a) (hnull : ∀ a, write a ≠ .null) :
    ReadsSlot (Tree.optional read) (value.map write) value := by
  cases value with
  | none => exact readsSlot_optional_none read
  | some a => exact (h a rfl).optional (hnull a)

/-- The same for a member that is written as null when it is missing. -/
theorem readsSlot_orNull {value : Option β} {write : β → Value}
    (h : ∀ a ∈ value, Reads read (write a) a) (hnull : ∀ a, write a ≠ .null) :
    ReadsSlot (Tree.optional read) (some (orNull value write)) value := by
  cases value with
  | none => exact readsSlot_optional_null read
  | some a => exact (h a rfl).optional (hnull a)

end Slots

/-! ## Structures -/

/-- One member after the other is read as long as there is room for them. -/
theorem bind_ite {α β : Type} {p : Prop} [Decidable p] (a : α) (f : α → Option β) :
    ((if p then some a else none) >>= f) = if p then f a else none := by
  split <;> rfl

/-- There is room for a structure if there is for its first member and for the others. -/
theorem fits_cons_iff {name : String} {value : Option Value} {slots : List MemberSlot}
    {room : Nat} : depthOfMembers (ofSlots ((name, value) :: slots)) ≤ room ↔
      depthOfSlot value ≤ room ∧ depthOfMembers (ofSlots slots) ≤ room := by
  cases value with
  | none => simp [depthOfSlot]
  | some v => exact Nat.max_le

theorem fits_nil_iff {room : Nat} : depthOfMembers (ofSlots []) ≤ room ↔ True :=
  iff_true_intro (Nat.zero_le room)

section Structure

variable {α : Type} {slots : List MemberSlot} {x : α} {read : List (Option Tree) → Option α}

/-- The members of a structure are read in declared order. -/
theorem read_ofSlots (hnames : (slots.map Prod.fst).Nodup) {closed : Bool}
    (h : ∀ room, read (slots.map fun s => s.2.map (ofValueWithin room)) =
      if depthOfMembers (ofSlots slots) ≤ room then some x else none) (room : Nat) :
    ((Tree.record ((ofSlots slots).map fun m => (m.1, ofValueWithin room m.2))).members?
        (slots.map Prod.fst) closed).bind read =
      if depthOfMembers (ofSlots slots) ≤ room then some x else none := by
  rw [members?, arrange?_ofSlots hnames, Option.bind_some, h]

/-- A structure is read back if its members are, taken in declared order. -/
theorem reads_structure (hnames : (slots.map Prod.fst).Nodup) (closed : Bool)
    (h : ∀ room, read (slots.map fun s => s.2.map (ofValueWithin room)) =
      if depthOfMembers (ofSlots slots) ≤ room then some x else none) :
    Reads (fun t => (t.members? (slots.map Prod.fst) closed).bind read)
      (.record (ofSlots slots)) x :=
  reads_of_members rfl (read_ofSlots hnames h)

end Structure

/-! ## Values of the usual kinds -/

/-- A text is read as itself. -/
theorem reads_text (s : String) : Reads text? (.text s) s := by
  intro room
  simp [ofValueWithin, text?, depth]

/-- A truth value is read as itself. -/
theorem reads_bool (b : Bool) : Reads bool? (.bool b) b := by
  intro room
  simp [ofValueWithin, bool?, depth]

/-- A number below the limit of its reader is read as itself. -/
theorem reads_natBelow {limit n : Nat} (h : n < limit) : Reads (natBelow? limit) (ofNat n) n := by
  intro room
  simp [ofValueWithin, ofNat, natBelow?, depth, h]

theorem reads_nat32 {n : Nat} (h : n < Nat.pow 2 32) : Reads nat32? (ofNat n) n := reads_natBelow h

theorem reads_nat64 {n : Nat} (h : n < Nat.pow 2 64) : Reads nat64? (ofNat n) n := reads_natBelow h

/-- A text that may be missing is read back. -/
theorem readsSlot_text (s : Option String) : ReadsSlot (Tree.optional text?) (s.map .text) s :=
  readsSlot_optional (fun a _ => reads_text a) nofun

/-- A number that was written as a binary64 number is read as it. -/
theorem reads_real (x : Binary64) : Reads real? (.number (.real x)) x := by
  intro room
  simp [ofValueWithin, real?, depth, Numeric.toBinary64]

section Containers

variable {α β : Type} {read : Tree → Option β} {write : α → Value} {back : α → β}

/-- A list is read item by item. -/
theorem reads_list {items : List α} (h : ∀ a ∈ items, Reads read (write a) (back a)) :
    Reads (list? read) (.list (items.map write)) (items.map back) :=
  reads_of_items rfl fun room => mapM_written h room

/-- A map whose keys are apart is read value by value. -/
theorem reads_map {pairs : Entries α} (hkeys : pairs.Distinct)
    (h : ∀ p ∈ pairs, Reads read (write p.2) (back p.2)) :
    Reads (mapOf? read) (.record (pairs.map fun p => (p.1, write p.2)))
      (pairs.map fun p => (p.1, back p.2)) := by
  have hdistinct : Entries.Distinct (pairs.map fun p => (p.1, back p.2)) := by
    simpa [Entries.Distinct, Entries.keys, Function.comp_def] using hkeys
  refine reads_of_members rfl fun room => ?_
  rw [mapOf?, mapM_written_members h]
  split
  · rw [Option.map_some, Entries.ofPairs_of_distinct hdistinct]
  · rfl

end Containers

/-! ## Containers of what is read back as it was -/

section Unchanged

variable {α : Type} {read : Tree → Option α} {write : α → Value}

/-- A list is read as itself if its items are. -/
theorem reads_list_self {items : List α} (h : ∀ a ∈ items, Reads read (write a) a) :
    Reads (list? read) (.list (items.map write)) items := by
  have hlist := reads_list (show ∀ a ∈ items, Reads read (write a) (id a) from h)
  rwa [List.map_id] at hlist

/-- A list that is left out when it is empty is read back. -/
theorem readsSlot_list {items : List α} (h : ∀ a ∈ items, Reads read (write a) a) :
    ReadsSlot (Tree.orDefault [] (list? read))
      (if items.isEmpty then none else some (.list (items.map write))) items := by
  cases items with
  | nil => exact readsSlot_orDefault_none [] _
  | cons a rest => exact (reads_list_self h).orDefault []

/-- A map is read as itself if its values are. -/
theorem reads_map_self {pairs : Entries α} (hkeys : pairs.Distinct)
    (h : ∀ p ∈ pairs, Reads read (write p.2) p.2) :
    Reads (mapOf? read) (.record (pairs.map fun p => (p.1, write p.2))) pairs := by
  have hpairs := reads_map hkeys (show ∀ p ∈ pairs, Reads read (write p.2) (id p.2) from h)
  simpa using hpairs

end Unchanged

/-- A list of values that a text can carry is read as itself. -/
theorem reads_values {values : List Value} (h : ∀ v ∈ values, v.Writable) :
    Reads (list? value?) (.list values) values := by
  have hvalues := reads_list_self
    (show ∀ v ∈ values, Reads value? (id v) v from fun v hv => reads_value (h v hv))
  rwa [List.map_id] at hvalues

/-- The reader of a record of values reads a map of values. -/
theorem valueMap?_eq_mapOf? : valueMap? = mapOf? value? := by
  funext t
  cases t with
  | record members => simp only [valueMap?, mapOf?, memberValues?_eq_mapM]
  | _ => rfl

/-- A record of values that a text can carry is read as itself. -/
theorem reads_valueMap {members : Entries Value} (hkeys : members.Distinct)
    (h : ∀ m ∈ members, m.2.Writable) : Reads valueMap? (.record members) members := by
  have hmembers := reads_map_self hkeys
    (show ∀ m ∈ members, Reads value? (id m.2) m.2 from fun m hm => reads_value (h m hm))
  rw [valueMap?_eq_mapOf?]
  simpa using hmembers

end Tree

end Formwork
