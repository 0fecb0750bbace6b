import Formwork.Proofs.Json.Numerals

/-!
# How deep values nest

A reader has room for a number of lists and records inside one another, and what would nest
deeper is unreadable to it.  So what it makes of a written value is the tree of the value
with such leaves in the places of what is too deep.

* `Value.depth` — how many lists and records nest in a value;
* `Value.Writable` — the values that a text can carry;
* `Tree.ofValueWithin` — the tree that a reader makes of a written value;
* `Tree.Reads` — a reader gives this for a written value, exactly if there is room for it;
* `Tree.reads_of_items` and `Tree.reads_of_members` — lists and records, level by level;
* `Tree.reads_value` — a value is read back as itself.
-/

namespace Formwork

namespace Value

mutual

/-- How many lists and records nest in a value. -/
def depth : Value → Nat
  | .list items => depthOfItems items + 1
  | .record members => depthOfMembers members + 1
  | _ => 0

/-- The greatest depth among the items of a list. -/
def depthOfItems : List Value → Nat
  | [] => 0
  | v :: rest => max v.depth (depthOfItems rest)

/-- The greatest depth among the members of a record. -/
def depthOfMembers : List (String × Value) → Nat
  | [] => 0
  | (_, v) :: rest => max v.depth (depthOfMembers rest)

end

/-- A list has room for its items exactly if it has room for each of them. -/
theorem depthOfItems_le_iff {items : List Value} {room : Nat} :
    depthOfItems items ≤ room ↔ ∀ v ∈ items, v.depth ≤ room := by
  induction items with
  | nil => simp [depthOfItems]
  | cons v rest ih => rw [depthOfItems, Nat.max_le, ih, List.forall_mem_cons]

/-- A record has room for its members exactly if it has room for each of them. -/
theorem depthOfMembers_le_iff {members : List (String × Value)} {room : Nat} :
    depthOfMembers members ≤ room ↔ ∀ m ∈ members, m.2.depth ≤ room := by
  induction members with
  | nil => simp [depthOfMembers]
  | cons m rest ih => rw [depthOfMembers, Nat.max_le, ih, List.forall_mem_cons]

/-- A text can carry the value: its numbers can be written, and no record has a key twice. -/
inductive Writable : Value → Prop
  | null : Writable .null
  | bool (b : Bool) : Writable (.bool b)
  | number {n : Numeric} (hn : n.Writable) : Writable (.number n)
  | text (s : String) : Writable (.text s)
  | list {items : List Value} (hitems : ∀ v ∈ items, Writable v) : Writable (.list items)
  | record {members : List (String × Value)} (hkeys : Entries.Distinct members)
      (hmembers : ∀ m ∈ members, Writable m.2) : Writable (.record members)

theorem writable_ofNat {n : Nat} (h : n < Nat.pow 2 64) : (ofNat n).Writable :=
  .number ⟨by omega, by omega⟩

end Value

namespace Entries

variable {α : Type}

/-- A key that is new is put at the end. -/
theorem put_of_not_mem {m : Entries α} {key : String} (h : key ∉ m.keys) (v : α) :
    m.put key v = m ++ [(key, v)] := by
  induction m with
  | nil => rfl
  | cons p rest ih =>
      obtain ⟨k, w⟩ := p
      have hk : k ≠ key := by
        rintro rfl
        exact h List.mem_cons_self
      have hrest : key ∉ keys rest := fun hmem => h (List.mem_cons_of_mem _ hmem)
      rw [put, if_neg hk, ih hrest, List.cons_append]

/-- Entries with new keys are put at the end, in their order. -/
theorem putAll_of_distinct {m pairs : Entries α} (h : Distinct (m ++ pairs)) :
    m.putAll pairs = m ++ pairs := by
  induction pairs generalizing m with
  | nil => exact (List.append_nil m).symm
  | cons p rest ih =>
      have hsplit : m ++ p :: rest = m ++ [p] ++ rest := by simp
      have hnew : p.1 ∉ m.keys := by
        intro hmem
        rw [Distinct, keys, List.map_append, List.nodup_append] at h
        exact h.2.2 _ hmem _ (by simp) rfl
      rw [hsplit] at h ⊢
      rw [← ih h, ← put_of_not_mem hnew]
      rfl

/-- Pairs with distinct keys are a map as they stand. -/
theorem ofPairs_of_distinct {m : Entries α} (h : m.Distinct) : ofPairs m = m :=
  putAll_of_distinct (m := []) h

end Entries

namespace Tree

mutual

/-- The tree that is read where a value was written, `room` lists and records being allowed
to nest. -/
def ofValueWithin (room : Nat) : Value → Tree
  | .null => .null
  | .bool b => .bool b
  | .number n => .number n
  | .text s => .text s
  | .list items => JsonText.within room (.list (ofItemsWithin (room - 1) items))
  | .record members => JsonText.within room (.record (ofMembersWithin (room - 1) members))

/-- The trees of the items of a list. -/
def ofItemsWithin (room : Nat) : List Value → List Tree
  | [] => []
  | v :: rest => ofValueWithin room v :: ofItemsWithin room rest

/-- The trees of the members of a record. -/
def ofMembersWithin (room : Nat) : List (String × Value) → List (String × Tree)
  | [] => []
  | (k, v) :: rest => (k, ofValueWithin room v) :: ofMembersWithin room rest

end

variable {room : Nat}

/-- The trees of the items are made one by one. -/
theorem ofItemsWithin_eq_map (items : List Value) :
    ofItemsWithin room items = items.map (ofValueWithin room) := by
  induction items with
  | nil => rfl
  | cons v rest ih => rw [ofItemsWithin, ih, List.map_cons]

/-- So are those of the members, under their names. -/
theorem ofMembersWithin_eq_map (members : List (String × Value)) :
    ofMembersWithin room members = members.map fun m => (m.1, ofValueWithin room m.2) := by
  induction members with
  | nil => rfl
  | cons m rest ih => rw [ofMembersWithin, ih, List.map_cons]

/-- A list takes one level of room, and its items have the rest. -/
theorem ofValueWithin_list (items : List Value) : ofValueWithin room (.list items) =
    JsonText.within room (.list (items.map (ofValueWithin (room - 1)))) := by
  rw [ofValueWithin, ofItemsWithin_eq_map]

/-- So does a record. -/
theorem ofValueWithin_record (members : List (String × Value)) :
    ofValueWithin room (.record members) = JsonText.within room
      (.record (members.map fun m => (m.1, ofValueWithin (room - 1) m.2))) := by
  rw [ofValueWithin, ofMembersWithin_eq_map]

/-! ## Reading what was written -/

/-- Where the value was written, something is read in its place if there is room for the
value, and nothing if there is not. -/
def Reads {α : Type} (read : Tree → Option α) (v : Value) (x : α) : Prop :=
  ∀ room, read (ofValueWithin room v) = if v.depth ≤ room then some x else none

section Nested

variable {α : Type} {read : Tree → Option α} {x : α}

/-- A list is read if its items are, with room for one level less. -/
theorem reads_of_items {items : List Value} (hdeep : read .unreadable = none)
    (h : ∀ room, read (.list (items.map (ofValueWithin room))) =
      if Value.depthOfItems items ≤ room then some x else none) : Reads read (.list items) x := by
  intro room
  rw [ofValueWithin_list]
  cases room with
  | zero => simp [JsonText.within, hdeep, Value.depth]
  | succ room =>
      simp only [JsonText.within, Nat.add_one_ne_zero, if_false, Nat.add_sub_cancel, h,
        Value.depth, Nat.add_le_add_iff_right]

/-- A record is read if its members are, with room for one level less. -/
theorem reads_of_members {members : List (String × Value)} (hdeep : read .unreadable = none)
    (h : ∀ room, read (.record (members.map fun m => (m.1, ofValueWithin room m.2))) =
      if Value.depthOfMembers members ≤ room then some x else none) :
    Reads read (.record members) x := by
  intro room
  rw [ofValueWithin_record]
  cases room with
  | zero => simp [JsonText.within, hdeep, Value.depth]
  | succ room =>
      simp only [JsonText.within, Nat.add_one_ne_zero, if_false, Nat.add_sub_cancel, h,
        Value.depth, Nat.add_le_add_iff_right]

end Nested

section Many

variable {α β : Type}

/-- Where a reader tells of every item whether it succeeds and what it then reads, it
succeeds on a list exactly if it does on all items. -/
theorem mapM_eq_ite {f : α → Option β} {g : α → β} {p : α → Prop} [DecidablePred p]
    {l : List α} (h : ∀ x ∈ l, f x = if p x then some (g x) else none) :
    l.mapM f = if ∀ x ∈ l, p x then some (l.map g) else none := by
  induction l with
  | nil => simp
  | cons x rest ih =>
      have hrest := ih fun y hy => h y (List.mem_cons_of_mem x hy)
      rw [List.mapM_cons, h x List.mem_cons_self, hrest]
      by_cases hx : p x
      · by_cases hall : ∀ y ∈ rest, p y
        · rw [if_pos hx, if_pos hall, if_pos (List.forall_mem_cons.mpr ⟨hx, hall⟩)]
          rfl
        · rw [if_pos hx, if_neg hall, if_neg fun hboth => hall (List.forall_mem_cons.mp hboth).2]
          rfl
      · rw [if_neg hx, if_neg fun hboth => hx (List.forall_mem_cons.mp hboth).1]
        rfl

variable {read : Tree → Option β} {write : α → Value} {back : α → β}

/-- Items that are read one by one are read exactly if there is room for all of them. -/
theorem mapM_written {items : List α} (h : ∀ x ∈ items, Reads read (write x) (back x))
    (room : Nat) : ((items.map write).map (ofValueWithin room)).mapM read =
      if Value.depthOfItems (items.map write) ≤ room then some (items.map back) else none := by
  have hitems := mapM_eq_ite (f := fun x => read (ofValueWithin room (write x))) (g := back)
    (p := fun x => (write x).depth ≤ room) fun x hx => h x hx room
  rw [List.map_map, List.mapM_map]
  simp only [Value.depthOfItems_le_iff, List.forall_mem_map]
  exact hitems

/-- So are members. -/
theorem mapM_written_members {pairs : List (String × α)}
    (h : ∀ p ∈ pairs, Reads read (write p.2) (back p.2)) (room : Nat) :
    ((pairs.map fun p => (p.1, write p.2)).map fun m => (m.1, ofValueWithin room m.2)).mapM
        (fun m => (read m.2).map fun v => (m.1, v)) =
      if Value.depthOfMembers (pairs.map fun p => (p.1, write p.2)) ≤ room then
        some (pairs.map fun p => (p.1, back p.2)) else none := by
  have hpairs := mapM_eq_ite
    (f := fun p : String × α => (read (ofValueWithin room (write p.2))).map fun v => (p.1, v))
    (g := fun p => (p.1, back p.2)) (p := fun p => (write p.2).depth ≤ room) (l := pairs)
    (by
      intro p hp
      rw [h p hp room]
      split <;> rfl)
  rw [List.map_map, List.mapM_map]
  simp only [Value.depthOfMembers_le_iff, List.forall_mem_map]
  exact hpairs

end Many

/-- The values of some trees are read one by one. -/
theorem values?_eq_mapM (items : List Tree) : values? items = items.mapM value? := by
  induction items with
  | nil => rfl
  | cons t rest ih =>
      rw [List.mapM_cons, ← ih, values?]
      cases value? t <;> cases values? rest <;> rfl

/-- So are those of some members, under their names. -/
theorem memberValues?_eq_mapM (members : List (String × Tree)) : memberValues? members =
    members.mapM fun m => (value? m.2).map fun v => (m.1, v) := by
  induction members with
  | nil => rfl
  | cons m rest ih =>
      obtain ⟨k, t⟩ := m
      rw [List.mapM_cons, ← ih, memberValues?]
      cases value? t <;> cases memberValues? rest <;> rfl

/-- A value that was written is read as this value. -/
theorem reads_value {v : Value} (h : v.Writable) : Reads value? v v := by
  induction h with
  | null => simp [Reads, ofValueWithin, value?, Value.depth]
  | bool b => simp [Reads, ofValueWithin, value?, Value.depth]
  | number hn => simp [Reads, ofValueWithin, value?, Value.depth]
  | text s => simp [Reads, ofValueWithin, value?, Value.depth]
  | @list items _ ih =>
      refine reads_of_items rfl fun room => ?_
      have hitems := mapM_written (show ∀ v ∈ items, Reads value? (id v) (id v) from ih) room
      rw [List.map_id] at hitems
      rw [value?, values?_eq_mapM, hitems]
      split <;> rfl
  | @record members hkeys _ ih =>
      refine reads_of_members rfl fun room => ?_
      have hmembers := mapM_written_members
        (show ∀ m ∈ members, Reads value? (id m.2) (id m.2) from ih) room
      simp only [id, List.map_id'] at hmembers
      rw [value?, memberValues?_eq_mapM, hmembers]
      split
      · rw [Option.map_some, Entries.ofPairs_of_distinct hkeys]
      · rfl

end Tree

end Formwork
