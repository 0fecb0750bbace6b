import Formwork.Proofs.Json.Room
import Formwork.Proofs.Json.Structures

/-!
# What is read can be saved

A reader accepts more than a printer writes: structures as lists, members in any order, null
for what is missing, keys that come twice.  What it makes of a tree it has room for can still
be written in that room, and if the numbers in it read back, it is among the things that are
read back as they were.  This is said of each kind of reader in turn; a structure is put
together from its members.

* `Value.RealsReadBack` — every binary64 number in a value is read back from its digits;
* `Tree.SavedIn` — a member can be written in a room, and something is kept if its numbers are;
* `Tree.Saves` and `Tree.SavesSlot` — a reader gives only what can be saved;
* `Tree.saves_value` — a value that was read can be carried by a text;
* `Tree.exists_room_of_members?` — the members of a structure have one level less of room;
* `Tree.savedIn_structure` — a structure can be saved if its members can.
-/

namespace Formwork

/-! ## The numbers in a value -/

namespace Value

mutual

/-- The binary64 numbers in a value. -/
def reals : Value → List Binary64
  | .number (.real x) => [x]
  | .list items => realsOfItems items
  | .record members => realsOfMembers members
  | _ => []

/-- The binary64 numbers in the items of a list. -/
def realsOfItems : List Value → List Binary64
  | [] => []
  | v :: rest => v.reals ++ realsOfItems rest

/-- The binary64 numbers in the members of a record. -/
def realsOfMembers : List (String × Value) → List Binary64
  | [] => []
  | (_, v) :: rest => v.reals ++ realsOfMembers rest

end

/-- Every binary64 number in the value is read back from its digits. -/
def RealsReadBack (v : Value) : Prop := ∀ x ∈ v.reals, x.ReadsBack

/-- The numbers in a list read back if those in its items do. -/
theorem realsReadBack_list_iff {items : List Value} :
    (list items).RealsReadBack ↔ ∀ v ∈ items, v.RealsReadBack := by
  have hitems : realsOfItems items = items.flatMap reals := by
    induction items with
    | nil => rfl
    | cons v rest ih => rw [realsOfItems, ih, List.flatMap_cons]
  simp only [RealsReadBack, reals, hitems, List.mem_flatMap]
  exact ⟨fun h v hv x hx => h x ⟨v, hv, hx⟩, fun h x ⟨v, hv, hx⟩ => h v hv x hx⟩

/-- The numbers in a record read back if those in its members do. -/
theorem realsReadBack_record_iff {members : List (String × Value)} :
    (record members).RealsReadBack ↔ ∀ m ∈ members, m.2.RealsReadBack := by
  have hmembers : realsOfMembers members = members.flatMap fun m => m.2.reals := by
    induction members with
    | nil => rfl
    | cons m rest ih => rw [realsOfMembers, ih, List.flatMap_cons]
  simp only [RealsReadBack, reals, hmembers, List.mem_flatMap]
  exact ⟨fun h m hm x hx => h x ⟨m, hm, hx⟩, fun h x ⟨m, hm, hx⟩ => h m hm x hx⟩

end Value

namespace Entries

variable {α : Type}

/-- What is found after a put was there before or was put. -/
theorem mem_put {m : Entries α} {key : String} {v : α} {p : String × α} (h : p ∈ m.put key v) :
    p ∈ m ∨ p = (key, v) := by
  induction m with
  | nil => exact Or.inr (List.mem_singleton.mp h)
  | cons q rest ih =>
      obtain ⟨k, w⟩ := q
      rw [put] at h
      split at h
      · rename_i hk
        rcases List.mem_cons.mp h with rfl | h
        · exact Or.inr (by rw [hk])
        · exact Or.inl (List.mem_cons_of_mem _ h)
      · rcases List.mem_cons.mp h with rfl | h
        · exact Or.inl List.mem_cons_self
        · exact (ih h).imp_left (List.mem_cons_of_mem _)

/-- What is found after many was there before or is one of them. -/
theorem mem_putAll {m : Entries α} {pairs : List (String × α)} {p : String × α}
    (h : p ∈ m.putAll pairs) : p ∈ m ∨ p ∈ pairs := by
  induction pairs generalizing m with
  | nil => exact Or.inl h
  | cons q rest ih =>
      rcases ih h with h | h
      · refine (mem_put h).imp_right ?_
        rintro rfl
        exact List.mem_cons_self
      · exact Or.inr (List.mem_cons_of_mem q h)

/-- A map holds only pairs that were put. -/
theorem mem_of_mem_ofPairs {pairs : List (String × α)} {p : String × α}
    (h : p ∈ ofPairs pairs) : p ∈ pairs :=
  (mem_putAll h).resolve_left List.not_mem_nil

end Entries

namespace Tree

open Value

/-! ## Readers -/

/-- A member can be written in this room, and if the numbers in it are read back then
something is kept. -/
structure SavedIn (room : Nat) (member : Option Value) (kept : Prop) : Prop where
  fits : depthOfSlot member ≤ room
  kept : (∀ v ∈ member, v.RealsReadBack) → kept

/-- What the reader makes of a tree that it has room for can be saved. -/
def Saves {α : Type} (room : Nat) (read : Tree → Option α) (write : α → Value)
    (good : α → Prop) : Prop :=
  ∀ ⦃t x⦄, t.FitsIn room → read t = some x → SavedIn room (some (write x)) (good x)

/-- The same for the reader of a member. -/
def SavesSlot {α : Type} (room : Nat) (read : Option Tree → Option α)
    (write : α → Option Value) (good : α → Prop) : Prop :=
  ∀ ⦃t x⦄, (∀ u ∈ t, u.FitsIn room) → read t = some x → SavedIn room (write x) (good x)

section Slots

variable {α : Type} {room : Nat} {read : Tree → Option α} {write : α → Value}
  {good : α → Prop}

/-- A member is read, and then the rest of the structure. -/
theorem SavesSlot.next {read : Option Tree → Option α} {write : α → Option Value}
    (h : SavesSlot room read write good) {t : Option Tree} (hfits : ∀ u ∈ t, u.FitsIn room)
    {β : Type} {rest : α → Option β} {y : β} (hread : (read t >>= rest) = some y) :
    ∃ x, SavedIn room (write x) (good x) ∧ rest x = some y := by
  obtain ⟨x, hx, hrest⟩ := Option.bind_eq_some_iff.mp hread
  exact ⟨x, h hfits hx, hrest⟩

theorem savedIn_none {kept : Prop} (h : kept) : SavedIn room none kept :=
  ⟨Nat.zero_le room, fun _ => h⟩

/-- What nests nothing can be written in any room. -/
theorem savedIn_flat {v : Value} (hv : v.depth = 0) {kept : Prop}
    (h : v.RealsReadBack → kept) : SavedIn room (some v) kept :=
  ⟨by simp [depthOfSlot, hv], fun hslot => h (hslot v rfl)⟩

/-- A member that must be there can be saved if its reader gives what can be. -/
theorem Saves.required (h : Saves room read write good) :
    SavesSlot room (required read) (fun x => some (write x)) good := by
  intro t x hfits hread
  cases t with
  | none => cases hread
  | some t => exact h (hfits t rfl) hread

/-- An optional member is none, or what its reader gives, and can be saved. -/
theorem Saves.optional_cases (h : Saves room read write good) {t : Option Tree} {x : Option α}
    (hfits : ∀ u ∈ t, u.FitsIn room) (hread : Tree.optional read t = some x) :
    x = none ∨ ∃ a, x = some a ∧ SavedIn room (some (write a)) (good a) := by
  unfold Tree.optional at hread
  split at hread
  · exact Or.inl (Option.some.inj hread).symm
  · exact Or.inl (Option.some.inj hread).symm
  · obtain ⟨a, ha, rfl⟩ := Option.map_eq_some_iff.mp hread
    exact Or.inr ⟨a, rfl, h (hfits _ rfl) ha⟩

/-- A member that may be missing. -/
theorem Saves.optional (h : Saves room read write good) :
    SavesSlot room (Tree.optional read) (fun x => x.map write) (fun x => ∀ a ∈ x, good a) := by
  intro t x hfits hread
  rcases h.optional_cases hfits hread with rfl | ⟨a, rfl, ha⟩
  · exact savedIn_none nofun
  · refine ⟨ha.fits, fun hreals => ?_⟩
    rintro _ ⟨⟩
    exact ha.kept hreals

/-- A member that may be missing and is written as null then. -/
theorem Saves.orNull (h : Saves room read write good) :
    SavesSlot room (Tree.optional read) (fun x => some (orNull x write))
      (fun x => ∀ a ∈ x, good a) := by
  intro t x hfits hread
  rcases h.optional_cases hfits hread with rfl | ⟨a, rfl, ha⟩
  · exact savedIn_flat rfl nofun
  · refine ⟨ha.fits, fun hreals => ?_⟩
    rintro _ ⟨⟩
    exact ha.kept hreals

/-- A member with a default, which can be saved itself. -/
theorem Saves.orDefault (h : Saves room read write good) {fallback : α}
    (hfallback : SavedIn room (some (write fallback)) (good fallback)) :
    SavesSlot room (Tree.orDefault fallback read) (fun x => some (write x)) good := by
  intro t x hfits hread
  cases t with
  | none =>
      obtain rfl := Option.some.inj hread
      exact hfallback
  | some t => exact h (hfits t rfl) hread

end Slots

/-! ## Values of the usual kinds -/

section Kinds

variable {room : Nat}

theorem saves_text : Saves room text? .text fun _ => True :=
  fun _ _ _ _ => savedIn_flat rfl fun _ => trivial

theorem saves_bool : Saves room bool? .bool fun _ => True :=
  fun _ _ _ _ => savedIn_flat rfl fun _ => trivial

/-- Something that is said or not, with a default. -/
theorem savesSlot_flag (fallback : Bool) :
    SavesSlot room (Tree.orDefault fallback bool?) (fun b => some (.bool b)) fun _ => True :=
  saves_bool.orDefault (savedIn_flat rfl fun _ => trivial)

/-- A number that was read is below the limit of its reader. -/
theorem saves_natBelow (limit : Nat) : Saves room (natBelow? limit) .ofNat (· < limit) := by
  intro t n _ hread
  refine savedIn_flat rfl fun _ => ?_
  unfold natBelow? at hread
  split at hread
  · split at hread
    · obtain rfl := Option.some.inj hread
      omega
    · cases hread
  · cases hread

theorem saves_nat32 : Saves room nat32? .ofNat (· < Nat.pow 2 32) := saves_natBelow _

theorem saves_nat64 : Saves room nat64? .ofNat (· < Nat.pow 2 64) := saves_natBelow _

theorem saves_real : Saves room real? (fun x => .number (.real x)) Binary64.ReadsBack :=
  fun _ _ _ _ => savedIn_flat rfl fun h => h _ (List.mem_singleton.mpr rfl)

end Kinds

/-! ## Containers -/

section Containers

variable {α : Type} {room : Nat} {read : Tree → Option α} {write : α → Value}
  {good : α → Prop}

/-- A list that was read item by item. -/
theorem savedIn_of_mapM {items : List Tree} {xs : List α}
    (h : ∀ t ∈ items, ∀ x, read t = some x → SavedIn room (some (write x)) (good x))
    (hread : items.mapM read = some xs) :
    SavedIn (room + 1) (some (.list (xs.map write))) (∀ x ∈ xs, good x) := by
  have hitems : ∀ x ∈ xs, SavedIn room (some (write x)) (good x) := by
    intro x hx
    obtain ⟨t, ht, hx⟩ := exists_of_mem_mapM hread hx
    exact h t ht x hx
  constructor
  · simp only [depthOfSlot, depth, Nat.add_le_add_iff_right, depthOfItems_le_iff,
      List.forall_mem_map]
    exact fun x hx => (hitems x hx).fits
  · intro hreals x hx
    have hall := realsReadBack_list_iff.mp (hreals _ rfl)
    refine (hitems x hx).kept ?_
    rintro _ ⟨⟩
    exact hall _ (List.mem_map_of_mem hx)

/-- A map that was read member by member. -/
theorem savedIn_of_mapM_members {members : List (String × Tree)} {pairs : List (String × α)}
    (h : ∀ m ∈ members, ∀ x, read m.2 = some x → SavedIn room (some (write x)) (good x))
    (hread : members.mapM (fun m => (read m.2).map fun x => (m.1, x)) = some pairs) :
    SavedIn (room + 1) (some (.record ((Entries.ofPairs pairs).map fun p => (p.1, write p.2))))
      (∀ p ∈ Entries.ofPairs pairs, good p.2) := by
  have hpairs : ∀ p ∈ Entries.ofPairs pairs, SavedIn room (some (write p.2)) (good p.2) := by
    intro p hp
    obtain ⟨m, hm, hread⟩ := exists_of_mem_mapM hread (Entries.mem_of_mem_ofPairs hp)
    obtain ⟨x, hx, rfl⟩ := Option.map_eq_some_iff.mp hread
    exact h m hm x hx
  constructor
  · simp only [depthOfSlot, depth, Nat.add_le_add_iff_right, depthOfMembers_le_iff,
      List.forall_mem_map]
    exact fun p hp => (hpairs p hp).fits
  · intro hreals p hp
    have hall := realsReadBack_record_iff.mp (hreals _ rfl)
    refine (hpairs p hp).kept ?_
    rintro _ ⟨⟩
    exact hall _ (List.mem_map_of_mem hp)

/-- A list is read of items with less room. -/
theorem saves_list (h : ∀ r < room, Saves r read write good) :
    Saves room (list? read) (fun xs => .list (xs.map write)) (fun xs => ∀ x ∈ xs, good x) := by
  intro t xs hfits hread
  cases hfits with
  | list hitems =>
      exact savedIn_of_mapM (fun t ht x hx => h _ (Nat.lt_succ_self _) (hitems t ht) hx) hread
  | _ => cases hread

/-- No key is twice in a map that was read. -/
theorem saves_mapOf (h : ∀ r < room, Saves r read write good) :
    Saves room (mapOf? read) (fun m => .record (m.map fun p => (p.1, write p.2)))
      (fun m => m.Distinct ∧ ∀ p ∈ m, good p.2) := by
  intro t m hfits hread
  cases hfits with
  | record hmembers =>
      obtain ⟨pairs, hpairs, rfl⟩ := Option.map_eq_some_iff.mp hread
      have hsaved := savedIn_of_mapM_members
        (fun m hm x hx => h _ (Nat.lt_succ_self _) (hmembers m hm) hx) hpairs
      exact ⟨hsaved.fits, fun hreals => ⟨Entries.distinct_ofPairs pairs, hsaved.kept hreals⟩⟩
  | _ => cases hread

/-- A list or a map that is left out when it is empty. -/
theorem Saves.unlessEmpty {read : Tree → Option (List α)} {write : List α → Value}
    {good : List α → Prop} (h : Saves room read write good) (hnil : good []) :
    SavesSlot room (Tree.orDefault [] read)
      (fun xs => if xs.isEmpty then none else some (write xs)) good := by
  intro t xs hfits hread
  cases xs with
  | nil => exact savedIn_none hnil
  | cons x xs =>
      cases t with
      | none => cases hread
      | some t => exact h (hfits t rfl) hread

end Containers

/-! ## Values -/

section Values

variable {room : Nat}

/-- A value that was read can be carried by a text. -/
theorem saves_value (room : Nat) : Saves room value? id Value.Writable := by
  intro t v hfits hread
  induction hfits generalizing v with
  | null =>
      obtain rfl := Option.some.inj hread
      exact savedIn_flat rfl fun _ => .null
  | bool b =>
      obtain rfl := Option.some.inj hread
      exact savedIn_flat rfl fun _ => .bool b
  | @number _ n hn =>
      obtain rfl := Option.some.inj hread
      refine savedIn_flat rfl fun hreals => .number ?_
      cases n with
      | integer n => exact hn
      | real x => exact hreals x (List.mem_singleton.mpr rfl)
  | text s =>
      obtain rfl := Option.some.inj hread
      exact savedIn_flat rfl fun _ => .text s
  | list _ ih =>
      obtain ⟨values, hvalues, rfl⟩ := Option.map_eq_some_iff.mp hread
      -- the items have one level less of room
      rw [values?_eq_mapM] at hvalues
      have hsaved := savedIn_of_mapM (fun t ht v hv => ih t ht hv) hvalues
      rw [List.map_id] at hsaved
      exact ⟨hsaved.fits, fun hreals => .list (hsaved.kept hreals)⟩
  | record _ ih =>
      obtain ⟨pairs, hpairs, rfl⟩ := Option.map_eq_some_iff.mp hread
      rw [memberValues?_eq_mapM] at hpairs
      have hsaved := savedIn_of_mapM_members (fun m hm v hv => ih m hm hv) hpairs
      simp only [id, List.map_id'] at hsaved
      exact ⟨hsaved.fits,
        fun hreals => .record (Entries.distinct_ofPairs pairs) (hsaved.kept hreals)⟩
  | unreadable => cases hread

/-- A list of values that was read can be saved. -/
theorem saves_values :
    Saves room (list? value?) .list (fun values => ∀ v ∈ values, v.Writable) := by
  intro t values hfits hread
  have hsaved := saves_list (fun r _ => saves_value r) hfits hread
  simpa using hsaved

/-- A record of values that was read can be saved, and no key comes twice in it. -/
theorem saves_valueMap :
    Saves room valueMap? .record (fun members => (Value.record members).Writable) := by
  intro t members hfits hread
  rw [valueMap?_eq_mapOf?] at hread
  have hsaved := saves_mapOf (fun r _ => saves_value r) hfits hread
  simp only [id, List.map_id'] at hsaved
  exact ⟨hsaved.fits, fun hreals => .record (hsaved.kept hreals).1 (hsaved.kept hreals).2⟩

/-- Only null is read as null. -/
theorem value?_eq_null_iff {t : Tree} : value? t = some .null ↔ t = .null := by
  constructor
  · intro h
    cases t with
    | null => rfl
    | list items => simp [value?] at h
    | record members => simp [value?] at h
    | _ => cases h
  · rintro rfl
    rfl

/-- A value that may be missing is never null: null is read as missing. -/
theorem savesSlot_value : SavesSlot room (Tree.optional value?) (fun value => value)
    (fun value => SlotWritable value ∧ value ≠ some .null) := by
  intro t value hfits hread
  have hnull : value ≠ some .null := by
    rintro rfl
    unfold Tree.optional at hread
    split at hread
    · cases hread
    · cases hread
    · rename_i t hnull
      obtain ⟨v, hv, hnone⟩ := Option.map_eq_some_iff.mp hread
      obtain rfl := Option.some.inj hnone
      exact hnull (value?_eq_null_iff.mp hv)
  have hsaved := (saves_value room).optional hfits hread
  simp only [Option.map_id_apply] at hsaved
  exact ⟨hsaved.fits, fun hreals => ⟨hsaved.kept hreals, hnull⟩⟩

end Values

/-! ## Members that are read before they are arranged -/

section Arrange

variable {α β : Type} (f : α → β)

/-- What a function makes of all members occurs under the names that these have. -/
theorem occurrences_map (members : List (String × α)) (name : String) :
    occurrences (members.map fun m => (m.1, f m.2)) name = (occurrences members name).map f := by
  induction members with
  | nil => rfl
  | cons m rest ih =>
      simp only [occurrences] at ih
      by_cases h : m.1 = name <;> simp [occurrences, h, ih]

/-- So it is found by the same name. -/
theorem member?_map (members : List (String × α)) (name : String) :
    member? (members.map fun m => (m.1, f m.2)) name =
      (member? members name).map (Option.map f) := by
  rw [member?, member?, occurrences_map]
  rcases occurrences members name with _ | ⟨_, _ | _⟩
  · rfl
  · rfl
  · rfl

/-- A function that is applied to all that is found may be applied afterwards. -/
theorem mapM_map_some {γ : Type} (names : List γ) (g : γ → Option α) :
    names.mapM (fun name => (g name).map f) = (names.mapM g).map (List.map f) := by
  induction names with
  | nil => rfl
  | cons name rest ih =>
      rw [List.mapM_cons, List.mapM_cons, ih]
      cases g name <;> cases rest.mapM g <;> rfl

/-- Members may be arranged before or after a function is applied to them. -/
theorem arrange?_map (names : List String) (closed : Bool) (members : List (String × α)) :
    arrange? names closed (members.map fun m => (m.1, f m.2)) =
      (arrange? names closed members).map (List.map (Option.map f)) := by
  have hmember : member? (members.map fun m => (m.1, f m.2)) = fun name =>
      (member? members name).map (Option.map f) := funext (member?_map f members)
  simp only [arrange?, List.all_map, Function.comp_def, hmember, mapM_map_some]
  split <;> rfl

/-- The same for a structure that is given as a list. -/
theorem arrangeItems?_map (names : List String) (items : List α) :
    arrangeItems? names (items.map f) =
      (arrangeItems? names items).map (List.map (Option.map f)) := by
  unfold arrangeItems?
  rw [List.length_map]
  split
  · rfl
  · simp

end Arrange

/-! ## Structures -/

section Structure

variable {room : Nat} {t : Tree}

/-- A member of a record has the room that all members have. -/
theorem fitsIn_of_member? {members : List (String × Tree)} {name : String} {m : Option Tree}
    (hfits : ∀ m ∈ members, m.2.FitsIn room) (h : member? members name = some m) :
    ∀ u ∈ m, u.FitsIn room := by
  have hmem : ∀ u ∈ m, u ∈ occurrences members name := by
    unfold member? at h
    split at h <;> cases h
    · nofun
    · rename_i u hu
      rintro _ ⟨⟩
      exact hu ▸ List.mem_singleton.mpr rfl
  intro u hu
  obtain ⟨p, hp, hpu⟩ := List.mem_filterMap.mp (hmem u hu)
  split at hpu
  · obtain rfl := Option.some.inj hpu
    exact hfits p hp
  · cases hpu

/-- The members of a structure have one level less of room. -/
theorem exists_room_of_members? {names : List String} {closed : Bool}
    {members : List (Option Tree)} (hfits : t.FitsIn room)
    (h : t.members? names closed = some members) :
    ∃ r, room = r + 1 ∧ ∀ m ∈ members, ∀ u ∈ m, u.FitsIn r := by
  cases hfits with
  | @record r _ hmembers =>
      refine ⟨r, rfl, ?_⟩
      simp only [members?, arrange?] at h
      split at h
      · cases h
      · intro m hm
        obtain ⟨name, _, hname⟩ := exists_of_mem_mapM h hm
        exact fitsIn_of_member? hmembers hname
  | @list r _ hitems =>
      refine ⟨r, rfl, ?_⟩
      simp only [members?, arrangeItems?] at h
      split at h
      · cases h
      · obtain rfl := Option.some.inj h
        intro m hm u hu
        rcases List.mem_append.mp hm with hm | hm
        · obtain ⟨v, hv, rfl⟩ := List.mem_map.mp hm
          cases hu
          exact hitems u hv
        · obtain ⟨_, rfl⟩ := List.mem_replicate.mp hm
          cases hu
  | _ => cases h

/-- What is read of the members of a structure, which have one level less of room. -/
theorem savedIn_of_members? {α : Type} {names : List String} {closed : Bool}
    {read : List (Option Tree) → Option α} {x : α} {member : Option Value} {kept : Prop}
    (hroom : t.FitsIn room) (h : (t.members? names closed).bind read = some x)
    (hsaved : ∀ {r members}, (∀ m ∈ members, ∀ u ∈ m, u.FitsIn r) → read members = some x →
      SavedIn (r + 1) member kept) : SavedIn room member kept := by
  obtain ⟨members, hmembers, hx⟩ := Option.bind_eq_some_iff.mp h
  obtain ⟨r, rfl, hfits⟩ := exists_room_of_members? hroom hmembers
  exact hsaved hfits hx

/-- A structure without its tag has the room that it has with it. -/
theorem fitsIn_of_tagged? {tag : String} {kinds : List String} {nested : Bool} {i : Nat}
    {body : Tree} (hfits : t.FitsIn room) (h : t.tagged? tag kinds nested = some (i, body)) :
    body.FitsIn room := by
  unfold tagged? at h
  split at h
  · cases h
  · cases hfits with
    | record hmembers =>
        simp only [Option.bind_eq_bind, Option.bind_eq_some_iff] at h
        obtain ⟨_, _, _, _, h⟩ := h
        obtain ⟨_, rfl⟩ := Prod.mk.inj (Option.some.inj h)
        exact .record fun m hm => hmembers m (List.mem_filter.mp hm).1
    | @list _ items hitems =>
        cases items with
        | nil => cases h
        | cons first rest =>
            obtain ⟨_, _, h⟩ := Option.map_eq_some_iff.mp h
            obtain ⟨_, rfl⟩ := Prod.mk.inj h
            exact .list fun t ht => hitems t (List.mem_cons_of_mem first ht)
    | _ => cases h

/-- A structure can be saved if its members can be written with one level less of room. -/
theorem savedIn_structure {slots : List MemberSlot} {kept : Prop}
    (hfits : ∀ s ∈ slots, depthOfSlot s.2 ≤ room)
    (hkept : (∀ s ∈ slots, ∀ v ∈ s.2, v.RealsReadBack) → kept) :
    SavedIn (room + 1) (some (.record (ofSlots slots))) kept := by
  constructor
  · simp only [depthOfSlot, depth, Nat.add_le_add_iff_right, depthOfMembers_le_iff]
    exact fun m hm => hfits _ (mem_ofSlots_iff.mp hm)
  · intro hreals
    have hmembers := realsReadBack_record_iff.mp (hreals _ rfl)
    refine hkept fun s hs v hv => ?_
    obtain ⟨name, value⟩ := s
    obtain rfl : value = some v := hv
    exact hmembers (name, v) (mem_ofSlots_iff.mpr hs)

/-- A tag takes no room and holds no number. -/
theorem SavedIn.tagged {members : List (String × Value)} {kept : Prop}
    (h : SavedIn room (some (.record members)) kept) (tag kind : String) :
    SavedIn room (some (.record ((tag, .text kind) :: members))) kept := by
  constructor
  · simpa only [depthOfSlot, depth, depthOfMembers, Nat.zero_max] using h.fits
  · intro hreals
    refine h.kept ?_
    rintro _ ⟨⟩
    have hmembers := realsReadBack_record_iff.mp (hreals _ rfl)
    exact realsReadBack_record_iff.mpr (List.forall_mem_cons.mp hmembers).2

end Structure

end Tree

end Formwork
